import Mathlib.Data.List.Induction
import Rehearsal.Proofs.World.Mocks
import Rehearsal.Proofs.World.Transfers

/-!
# Routing

A flow that opens a session with a member gets the end that was attached last for that member, and
only linking registries attaches ends. What is sent there arrives at the other end of the same link,
whether the end is still the one handed out or was replaced by that of a later link.
-/

namespace Rehearsal

/-- Of sessions that were attached one after the other, the last for a counterparty is found. -/
theorem lookup_attached (attached : List Session) (c : Member) :
    ((attached.map fun s => (s.counterparty, s)).reverse).lookup c =
      (attached.filter fun s => s.counterparty = c).getLast? := by
  induction attached using List.reverseRecOn with
  | nil => rfl
  | append_singleton attached s ih =>
    rw [List.map_append, List.reverse_append, List.filter_append]
    by_cases here : s.counterparty = c
    · simp [here]
    · have apart : (c == s.counterparty) = false := beq_eq_false_iff_ne.mpr (Ne.symm here)
      simpa [List.lookup_cons, here, apart] using ih

/-- The session with a counterparty is the one that was found. -/
theorem Messaging.session_eq {mock : Messaging} {c : Member} {last : Option Session} :
    mock.session? c = last → mock.session c =
      match last with
      | some s => .ok s
      | none => .error (.noSessionForCounterparty c.text) := by
  rintro rfl
  rfl

/-- Two registries are linked if both run as members, under the next number. -/
theorem Act.fst_linkRegistries (a b : RegistryId) (w : World) : (linkRegistries a b w).1 = do
    return ⟨w.linkCount, ← w.memberOf a, ← w.memberOf b⟩ := by
  rw [linkRegistries_apply]
  cases w.memberOf a with
  | error e => rfl
  | ok own => cases w.memberOf b <;> rfl

namespace World

variable {w w' : World} {m : MockId} {op : Operation} {ops : List Operation}

theorem made_of_attaches {s : Session} (h : s ∈ op.attaches m w) : (op.run w).Made s := by
  cases op with
  | linkRegistries a b =>
    unfold Operation.attaches at h
    cases linked : (Act.linkRegistries a b w).1 with
    | error e => simp [linked] at h
    | ok l =>
      have made := Act.mem_links_of_linkRegistries linked
      simp only [linked, Operation.ownEnds, List.mem_append] at h
      rcases h with atA | atB
      · split at atA
        · exact ⟨l, made, .a, List.mem_singleton.mp atA⟩
        · cases atA
      · split at atB
        · exact ⟨l, made, .b, List.mem_singleton.mp atB⟩
        · cases atB
  | _ => cases h

/-- Every session that was attached is an end of a link. -/
theorem Undergoes.made_of_attached (h : w.Undergoes ops w') :
    ∀ s ∈ w.told (Operation.attaches m) ops, w'.Made s := by
  induction h with
  | nothing => simp [told]
  | next applies others ih =>
    intro s hs
    rcases List.mem_append.mp hs with now | later
    · exact (made_of_attaches now).mono others.carries.links
    · exact ih s later

/-- The sessions of a messaging mock are those that were attached, latest first. -/
theorem Undergoes.sessions (h : ({} : World).Undergoes ops w) (m : MockId) :
    (w.messagings.get m).sessions =
      ((({} : World).told (Operation.attaches m) ops).map
        fun s => (s.counterparty, s)).reverse := by
  have step : ∀ (w : World) (op : Operation), op.Applies w →
      ((op.run w).messagings.get m).sessions.reverse = (w.messagings.get m).sessions.reverse ++
        (op.attaches m w).filterMap fun s => some (s.counterparty, s) := by
    intro w op _
    rw [Operation.sessions_run w op m]
    simp
  have all := h.extends (fun w => (w.messagings.get m).sessions.reverse) step
  rw [List.reverse_eq_iff] at all
  simpa [default] using all

/-- **Routing.** After any history, opening a session with a member gives the end that was attached
last for that member, and fails if there is none. Ends are attached as two registries are linked,
which they are if both run as members. Whatever ends were attached, each direction of each link
loses no message: only its own end sends there, only the end at the other side receives from there,
the oldest first, and what was received, and then what still waits, is what was sent. -/
theorem Undergoes.routing_law (h : ({} : World).Undergoes ops w) :
    (∀ m c, Act.initiate m c w =
      (match ((({} : World).told (Operation.attaches m) ops).filter
          fun s => s.counterparty = c).getLast? with
        | some s => .ok s
        | none => .error (.noSessionForCounterparty c.text),
      { w with messagings := w.messagings.modify m (·.record c) })) ∧
    (∀ a b, (Act.linkRegistries a b w).1 = do
      return ⟨w.linkCount, ← w.memberOf a, ← w.memberOf b⟩) ∧
    (∀ m, ∀ s ∈ ({} : World).told (Operation.attaches m) ops, w.Made s) ∧
    ∀ s, w.Made s → w.Made s.opposite ∧
      (∀ s', w.Made s' → (s'.outbound = s.outbound ↔ s' = s) ∧
        (s'.inbound = s.outbound ↔ s' = s.opposite)) ∧
      (∀ me, (w.lookFor me s.opposite).1 = (w.queue s.outbound).envelopes.head?) ∧
      (({} : World).told Operation.transfers ops).filterMap (Transfer.outOf? s.outbound) ++
          (w.queue s.outbound).envelopes =
        stamp 0 ((({} : World).told Operation.transfers ops).filterMap
          (Transfer.into? s.outbound)) := by
  have carries := h.carries
  have linked := carries.linked .empty
  refine ⟨fun m c => ?_, fun a b => Act.fst_linkRegistries a b w, fun m => h.made_of_attached,
    fun s made => ⟨made.opposite, fun s' made' => ⟨linked.sends_iff made made',
      linked.receives_iff made made'⟩, fun me => w.lookFor_opposite me s, ?_⟩⟩
  · have found : (w.messagings.get m).session? c =
        ((({} : World).told (Operation.attaches m) ops).filter
          fun s => s.counterparty = c).getLast? := by
      rw [Messaging.session?, h.sessions m, lookup_attached]
    exact (Act.initiate_apply m c w).trans (congrArg (·, _) (Messaging.session_eq found))
  · exact carries.balanced.conserved s.outbound

/-- Alice, whose registry has a messaging mock, is linked to Bob, to herself, and from Bob again. -/
def relinked (alice bob : Member) : List Operation :=
  [.build "alice" [.engine, .messaging], .build "bob" [.engine], .linkRegistries 0 1,
    .setNodeName 0 alice, .setNodeName 2 bob, .linkRegistries 0 1, .linkRegistries 0 0,
    .linkRegistries 1 0, .send ⟨0, .a, alice, bob⟩ ⟨.unit, ()⟩, .look 0 ⟨0, .b, bob, alice⟩]

theorem routing_law_relinked : ∃ alice bob w, ({} : World).Undergoes (relinked alice bob) w ∧
    (({} : World).told (Operation.attaches 1) (relinked alice bob)).map
      (fun s => (s.link, s.side)) = [(0, .a), (1, .a), (1, .b), (2, .b)] ∧
    (Act.initiate 1 bob w).1 = .ok ⟨2, .b, alice, bob⟩ ∧
    (Act.initiate 1 alice w).1 = .ok ⟨1, .b, alice, alice⟩ ∧
    ((({} : World).told Operation.transfers (relinked alice bob)).filterMap
      (Transfer.outOf? ⟨0, .a⟩)).map Envelope.sequence = [0] := by
  let alice : Member := ⟨none, none, "Alice", "Oslo", none, "NO"⟩
  let bob : Member := ⟨none, none, "Bob", "Bonn", none, "DE"⟩
  have undergoes : ({} : World).Undergoes (relinked alice bob) _ :=
    .next trivial (.next trivial (.next trivial (.next trivial (.next trivial (.next trivial
      (.next trivial (.next trivial (.next trivial (.next trivial .nothing)))))))))
  have lastForBob : ((({} : World).told (Operation.attaches 1) (relinked alice bob)).filter
      fun s => s.counterparty = bob).getLast? = some ⟨2, .b, alice, bob⟩ := by decide +kernel
  have lastForAlice : ((({} : World).told (Operation.attaches 1) (relinked alice bob)).filter
      fun s => s.counterparty = alice).getLast? = some ⟨1, .b, alice, alice⟩ := by decide +kernel
  obtain ⟨routed, -⟩ := undergoes.routing_law
  refine ⟨alice, bob, _, undergoes, by decide +kernel, ?_, ?_, by decide +kernel⟩
  · rw [routed, lastForBob]
  · rw [routed, lastForAlice]

end World

end Rehearsal
