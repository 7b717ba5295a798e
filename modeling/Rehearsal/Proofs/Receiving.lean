import Rehearsal.Proofs.Scenario.Receptions
import Rehearsal.Proofs.World.Transfers

/-!
# Receiving

A receive that finds messages takes the oldest, whatever it holds. The value is handed on if it was
sent as the kind that is asked for; otherwise the receive fails with the names of both kinds, and
the message is gone: every message that is found there later was sent later.
-/

namespace Rehearsal

namespace Payload

theorem downcast?_self {k : Kind} (v : k.Value) : downcast? ⟨k, v⟩ k = some v := dif_pos rfl

/-- A value is of no kind but its own. -/
theorem downcast?_of_ne {p : Payload} {k : Kind} (other : p.kind ≠ k) : p.downcast? k = none :=
  dif_neg other

theorem downcast?_eq_some_iff {p : Payload} {k : Kind} {v : k.Value} :
    p.downcast? k = some v ↔ p = ⟨k, v⟩ := by
  obtain ⟨actual, value⟩ := p
  by_cases same : actual = k
  · subst same
    simp [downcast?_self]
  · simp [downcast?_of_ne (p := ⟨actual, value⟩) same, same]

end Payload

namespace Parcel

variable {p : Parcel} {k : Kind}

/-- The two looks at a kind come to the same, whatever kind is asked for, if and only if the kind
that was recorded is that of the content. -/
theorem expectKind_eq_take_iff :
    (∀ k, p.expectKind k = (p.take k).map fun _ => ()) ↔ p.tag = p.content.kind := by
  constructor
  · intro agree
    -- Asked for its own kind, the content passes, so the record has to pass as well.
    have own := agree p.content.kind
    rw [take, Payload.downcast?_self] at own
    by_contra differ
    rw [expectKind, if_neg differ] at own
    cases own
  · intro same k
    rw [expectKind, take]
    by_cases asked : p.tag = k
    · obtain ⟨v, taken⟩ : ∃ v, p.content.downcast? k = some v := by
        subst asked
        rw [same]
        exact ⟨p.content.value, Payload.downcast?_self _⟩
      rw [if_pos asked, taken]
      rfl
    · rw [if_neg asked, Payload.downcast?_of_ne (same ▸ asked)]
      rfl

/-- A text under the record of a truth value passes the first look, and fails the second. -/
example : (⟨.bool, ⟨.text, "no"⟩⟩ : Parcel).expectKind .bool = .ok () ∧
    (⟨.bool, ⟨.text, "no"⟩⟩ : Parcel).take .bool =
      .error (.unexpectedMessageType "bool" "bool") := ⟨rfl, rfl⟩

theorem receive_of_tag (recorded : p.tag = k) : p.receive k = p.take k := by
  rw [receive, expectKind, if_pos recorded]
  rfl

theorem receive_of_tag_ne (other : p.tag ≠ k) : p.receive k = .error (p.unexpected k) := by
  rw [receive, expectKind, if_neg other]
  rfl

/-- A value is received if it was packed, as it is and under its kind. -/
theorem receive_eq_ok_iff {v : k.Value} : p.receive k = .ok v ↔ p = .pack ⟨k, v⟩ := by
  obtain ⟨tag, content⟩ := p
  by_cases recorded : tag = k
  · subst recorded
    rw [receive_of_tag rfl, take, pack, mk.injEq, ← Payload.downcast?_eq_some_iff]
    cases content.downcast? tag <;> simp
  · rw [receive_of_tag_ne recorded]
    simp [pack, recorded]

/-- The only fault is a wrong kind, and it names the one that was recorded. -/
theorem receive_eq_error_iff {fault : Error} : p.receive k = .error fault ↔
    (p.tag ≠ k ∨ p.content.kind ≠ k) ∧ fault = .unexpectedMessageType k.name p.tag.name := by
  by_cases recorded : p.tag = k
  · rw [receive_of_tag recorded, take]
    by_cases own : p.content.kind = k
    · subst own
      rw [Payload.downcast?_self p.content.value]
      simp [recorded]
    · rw [Payload.downcast?_of_ne own]
      simp [unexpected, own, eq_comm]
  · rw [receive_of_tag_ne recorded]
    simp [unexpected, recorded, eq_comm]

/-! Of what was packed, one kind is recorded and had. -/

/-- The two looks succeed together, and fail with the same error. -/
theorem expectKind_pack (p : Payload) (k : Kind) :
    (pack p).expectKind k = ((pack p).take k).map fun _ => () :=
  expectKind_eq_take_iff.mpr rfl k

/-- What passes the first look passes the second. -/
theorem receive_pack (p : Payload) (k : Kind) : (pack p).receive k = (pack p).take k := by
  rw [receive, expectKind_pack]
  cases (pack p).take k <;> rfl

theorem receive_pack_eq_ok_iff {p : Payload} {v : k.Value} :
    (pack p).receive k = .ok v ↔ p = ⟨k, v⟩ := by
  rw [receive_eq_ok_iff]
  exact ⟨congrArg content, congrArg pack⟩

theorem receive_pack_eq_error_iff {p : Payload} {fault : Error} :
    (pack p).receive k = .error fault ↔
      p.kind ≠ k ∧ fault = .unexpectedMessageType k.name p.kind.name := by
  rw [receive_eq_error_iff]
  exact and_congr_left' (or_self_iff ..)

end Parcel

theorem le_sequence_of_mem_stamp {n : Nat} {ms : List (Member × Payload)} {e : Envelope}
    (h : e ∈ stamp n ms) : n ≤ e.sequence := by
  have member := List.mem_map_of_mem h (f := Envelope.sequence)
  rw [sequence_stamp, List.mem_range'_1] at member
  exact member.1

namespace World

variable {w w' : World} {ts : List Transfer} {ops : List Operation} {q : QueueId} {e : Envelope}
  {rest : List Envelope}

/-- The messages of a queue are numbered in ascending order, below the next number. -/
theorem Balanced.ascending (h : Balanced {} ts w) (q : QueueId) :
    (w.queue q).envelopes.Pairwise (fun e e' => e.sequence < e'.sequence) ∧
      ∀ e ∈ (w.queue q).envelopes, e.sequence < (w.queue q).nextSequence := by
  have all := congrArg (List.map Envelope.sequence) (h.conserved q)
  rw [List.map_append, show (({} : World).queue q).envelopes = [] from rfl, List.nil_append,
    sequence_stamp, show (({} : World).queue q).nextSequence = 0 from rfl] at all
  have next := h.nextSequence q
  rw [show (({} : World).queue q).nextSequence = 0 from rfl, Nat.zero_add] at next
  have last : (w.queue q).envelopes.map Envelope.sequence <:+
      List.range' 0 (ts.filterMap (Transfer.into? q)).length := ⟨_, all⟩
  refine ⟨List.pairwise_map.mp ((List.pairwise_lt_range' 1).sublist last.sublist), fun e he => ?_⟩
  have member := last.subset (List.mem_map_of_mem he)
  rw [List.mem_range'_1] at member
  omega

/-- What is found in a queue once its oldest message was taken has a greater number. -/
theorem Balanced.sequence_lt {w'' : World} {us : List Transfer} (h : Balanced {} ts w)
    (queued : (w.queue q).envelopes = e :: rest) (left : (w'.queue q).envelopes = rest)
    (next : (w'.queue q).nextSequence = (w.queue q).nextSequence) (later : Balanced w' us w'')
    {e' : Envelope} (found : e' ∈ (w''.queue q).envelopes) : e.sequence < e'.sequence := by
  obtain ⟨ascending, below⟩ := h.ascending q
  rw [queued] at ascending below
  have member : e' ∈ rest ++ stamp (w'.queue q).nextSequence (us.filterMap (Transfer.into? q)) := by
    rw [← left, ← later.conserved q]
    exact List.mem_append_right _ found
  rcases List.mem_append.mp member with waiting | sent
  · exact (List.pairwise_cons.mp ascending).1 e' waiting
  · have fresh := le_sequence_of_mem_stamp sent
    have old := below e (List.mem_cons_self ..)
    omega

/-- A row of operations sends what its send operations send. -/
theorem Undergoes.send_of_told (h : w.Undergoes ops w') {s : Session} {p : Payload}
    (member : Transfer.sent s p ∈ w.told Operation.transfers ops) : Operation.send s p ∈ ops := by
  induction h with
  | nothing => cases member
  | @next w w' op ops _ _ ih =>
    rcases List.mem_append.mp member with now | later
    · cases op with
      | send =>
        obtain ⟨rfl, rfl⟩ : s = _ ∧ p = _ := by simpa [Operation.transfers] using now
        exact List.mem_cons_self ..
      | look => simp [Operation.transfers] at now
      | _ => cases now
    · exact List.mem_cons_of_mem _ (ih later)

/-- Every message in a queue was sent there, and packed for it. -/
theorem Undergoes.send_of_queued (h : ({} : World).Undergoes ops w)
    (queued : e ∈ (w.queue q).envelopes) : ∃ s p, Operation.send s p ∈ ops ∧
      e.parcel = .pack p ∧ s.outbound = q ∧ s.owner = e.sender := by
  have sent := List.mem_append_right
    ((({} : World).told Operation.transfers ops).filterMap (Transfer.outOf? q)) queued
  rw [h.carries.balanced.conserved q] at sent
  have content := List.mem_map_of_mem sent (f := fun e => (e.sender, e.payload))
  rw [show (({} : World).queue q).envelopes = [] from rfl, List.nil_append, content_stamp,
    List.mem_filterMap] at content
  obtain ⟨t, ht, into⟩ := content
  cases t with
  | taken => cases into
  | sent s p =>
    by_cases here : s.outbound = q
    · rw [Transfer.into?, if_pos here, Option.some.injEq, Prod.mk.injEq] at into
      obtain ⟨owner, rfl⟩ := into
      exact ⟨s, _, h.send_of_told ht, h.carries.balanced.packed queued, here, owner⟩
    · rw [Transfer.into?, if_neg here] at into
      cases into

/-- What a look does that finds this message before these others: it takes the one, and leaves the
others and every other queue alone. -/
structure Hands (w : World) (me : Waiter) (s : Session) (e : Envelope) (rest : List Envelope)
    (w' : World) : Prop where
  found : w.lookFor me s = (some e, w')
  inbound : w'.queue s.inbound = { w.queue s.inbound with envelopes := rest }
  others : ∀ q, q ≠ s.inbound → w'.queue q = w.queue q
  log : w'.log = w.log ++ [.messageReceived s.inbound e s.owner]

theorem exists_hands {s : Session} (queued : (w.queue s.inbound).envelopes = e :: rest)
    (me : Waiter) : ∃ w', w.Hands me s e rest w' := by
  have looked := w.lookFor_eq me s
  rw [Queue.poll_of_cons queued] at looked
  refine ⟨_, looked, ?_, fun q hq => queue_of_lookFor_ne looked hq, rfl⟩
  obtain ⟨rest', queued', left⟩ := queue_of_lookFor_some looked
  rw [queued] at queued'
  cases queued'
  exact left

end World

namespace Reception

variable {w w' : World} {me : Waiter} {r : Reception} {e : Envelope} {rest : List Envelope}

/-- That a reception begins where a message waits is not noticed. -/
theorem start_of_cons (queued : (w.queue r.session.inbound).envelopes = e :: rest) :
    r.start w = w := by
  rw [start, World.awaitMessage, Queue.isEmpty, queued]
  rfl

/-- A reception hands on what the payload of the message comes to. -/
theorem look_of_hands (hands : w.Hands me r.session e rest w') : r.look me w =
    match e.parcel.receive r.kind with
    | .ok v => (some (r.finish v w').1, (r.finish v w').2)
    | .error fault => (some (.error fault), w') := by
  rw [look, hands.found]
  dsimp only
  cases e.parcel.receive r.kind <;> rfl

end Reception

/-- **Typed receives.** After any history, a reception whose queue is not empty takes exactly the
oldest message, which somebody sent there, and touches no other. It goes on with a value if and only
if this value was sent and is of the kind that it asks for; otherwise it fails with the names of
both kinds. Whoever looks into the queue at any later moment finds a message with a greater number.
The two looks at a kind, at the one that was recorded and at that of the value itself, agree for
whatever was packed, and for nothing else: what is recorded has to be the kind of the value. -/
theorem World.Undergoes.typed_receive {ops : List Operation} {w : World}
    (h : ({} : World).Undergoes ops w) :
    (∀ (r : Reception) e rest, (w.queue r.session.inbound).envelopes = e :: rest → ∀ me,
      ∃ s p w', Operation.send s p ∈ ops ∧ e.parcel = .pack p ∧
        s.outbound = r.session.inbound ∧ s.owner = e.sender ∧
        r.start w = w ∧ w.Hands me r.session e rest w' ∧
        (∀ v, p = ⟨r.kind, v⟩ ↔ e.parcel.receive r.kind = .ok v) ∧
        (∀ v, p = ⟨r.kind, v⟩ → r.look me w = (some (r.finish v w').1, (r.finish v w').2)) ∧
        (p.kind ≠ r.kind → r.look me w =
          (some (.error (.unexpectedMessageType r.kind.name p.kind.name)), w')) ∧
        ∀ later w'', w'.Undergoes later w'' → ∀ me' s e', s.inbound = r.session.inbound →
          (w''.lookFor me' s).1 = some e' → e.sequence < e'.sequence) ∧
    (∀ (p : Payload) (k : Kind),
      (∀ v, (Parcel.pack p).receive k = .ok v ↔ p = ⟨k, v⟩) ∧
      (∀ fault, (Parcel.pack p).receive k = .error fault ↔
        p.kind ≠ k ∧ fault = .unexpectedMessageType k.name p.kind.name) ∧
      (Parcel.pack p).expectKind k = ((Parcel.pack p).take k).map (fun _ => ()) ∧
      (Parcel.pack p).receive k = (Parcel.pack p).take k) ∧
    ∀ p : Parcel, (∀ k, p.expectKind k = (p.take k).map fun _ => ()) ↔ p.tag = p.content.kind := by
  refine ⟨fun r e rest queued me => ?_, fun p k => ⟨fun v => Parcel.receive_pack_eq_ok_iff,
    fun fault => Parcel.receive_pack_eq_error_iff, Parcel.expectKind_pack p k,
    Parcel.receive_pack p k⟩, fun p => Parcel.expectKind_eq_take_iff⟩
  obtain ⟨w', hands⟩ := exists_hands queued me
  obtain ⟨s, p, sent, packed, into, owner⟩ :=
    h.send_of_queued (queued ▸ List.mem_cons_self .. : e ∈ _)
  have looked := Reception.look_of_hands hands
  rw [packed] at looked
  refine ⟨s, p, w', sent, packed, into, owner, Reception.start_of_cons queued, hands,
    fun v => ?_, fun v same => ?_, fun other => ?_,
    fun later w'' undergoes me' s e' same found => ?_⟩
  · rw [packed, Parcel.receive_pack_eq_ok_iff]
  · rw [looked, Parcel.receive_pack_eq_ok_iff.mpr same]
  · rw [looked, Parcel.receive_pack_eq_error_iff.mpr ⟨other, rfl⟩]
  · rw [lookFor_head, same] at found
    refine h.carries.balanced.sequence_lt queued ?_ ?_ undergoes.carries.balanced
      (List.mem_of_mem_head? found)
    · rw [hands.inbound]
    · rw [hands.inbound]

/-- A number in one octet. -/
def Payload.five : Payload := ⟨.integer .u8, ⟨5, by decide, by decide⟩⟩

/-- Alice sends a number and a text. -/
def World.mistyped (alice bob : Member) : List Operation :=
  [.linkMembers alice bob, .send ⟨0, .a, alice, bob⟩ .five,
    .send ⟨0, .a, alice, bob⟩ ⟨.text, "five"⟩]

/-- Bob asks for a text, gets the number, and the text is next. -/
theorem World.typed_receive_mistyped : ∃ alice bob w,
    ({} : World).Undergoes (mistyped alice bob) w ∧
    ∃ w', (Reception.keep ⟨0, .b, bob, alice⟩ .text).look 1 w =
        (some (.error (.unexpectedMessageType "alloc::string::String" "u8")), w') ∧
      (w'.queue ⟨0, .a⟩).kinds = [.text] ∧
      ∀ me e, (w'.lookFor me ⟨0, .b, bob, alice⟩).1 = some e → 0 < e.sequence := by
  let alice : Member := ⟨none, none, "Alice", "Oslo", none, "NO"⟩
  let bob : Member := ⟨none, none, "Bob", "Bonn", none, "DE"⟩
  let r : Reception := .keep ⟨0, .b, bob, alice⟩ .text
  have undergoes : ({} : World).Undergoes (mistyped alice bob) _ :=
    .next trivial (.next trivial (.next trivial .nothing))
  obtain ⟨typed, -, -⟩ := undergoes.typed_receive
  obtain ⟨-, p, w', -, packed, -, -, -, hands, -, -, mismatch, later⟩ :=
    typed r ⟨0, alice, .pack .five⟩ [⟨1, alice, .pack ⟨.text, "five"⟩⟩] rfl 1
  obtain rfl : Payload.five = p := congrArg Parcel.content packed
  refine ⟨alice, bob, _, undergoes, w', mismatch (by decide), ?_,
    fun me e => later [] w' .nothing me _ e rfl⟩
  rw [show w'.queue ⟨0, .a⟩ = _ from hands.inbound]
  rfl

end Rehearsal
