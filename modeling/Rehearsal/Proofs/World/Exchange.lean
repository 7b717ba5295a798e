import Rehearsal.Proofs.World.Queues

/-!
# Exchanges

An exchange is a stretch of a world's history, told by the messages that moved: each was sent
through a session or taken by one, and in between nothing happened to the messages of any queue. The
law of exchanges is conservation: what was taken from a queue, followed by what is left in it, is
what was in it and then what was sent, numbered in the order of sending.
-/

namespace Rehearsal

/-- A message that moved: into the queue that a session sends to, or out of the one it receives
from. -/
inductive Transfer where
  | sent (s : Session) (p : Payload)
  | taken (s : Session) (e : Envelope)

namespace Transfer

/-- The session that was used. -/
def session : Transfer → Session
  | sent s _ => s
  | taken s _ => s

/-- Who sent what into a queue, if anything. -/
def into? (q : QueueId) : Transfer → Option (Member × Payload)
  | sent s p => if s.outbound = q then some (s.owner, p) else none
  | taken _ _ => none

/-- What was taken out of a queue, if anything. -/
def outOf? (q : QueueId) : Transfer → Option Envelope
  | sent _ _ => none
  | taken s e => if s.inbound = q then some e else none

/-- What was sent through a session, if anything. -/
def sentBy? (s : Session) : Transfer → Option Payload
  | sent s' p => if s' = s then some p else none
  | taken _ _ => none

/-- What a session took, if anything. -/
def takenBy? (s : Session) : Transfer → Option Envelope
  | sent _ _ => none
  | taken s' e => if s' = s then some e else none

/-- Whether a message was sent. -/
def isSent : Transfer → Bool
  | sent _ _ => true
  | taken _ _ => false

/-- How many messages were sent. -/
def sends (ts : List Transfer) : Nat := ts.countP isSent

@[simp] theorem sends_nil : sends [] = 0 := rfl

@[simp] theorem sends_append (ts us : List Transfer) : sends (ts ++ us) = sends ts + sends us :=
  List.countP_append

end Transfer

/-! ## Numbering -/

/-- Messages with consecutive numbers, whose values are packed. -/
def stamp : Nat → List (Member × Payload) → List Envelope
  | _, [] => []
  | n, m :: ms => ⟨n, m.1, .pack m.2⟩ :: stamp (n + 1) ms

@[simp] theorem stamp_nil (n : Nat) : stamp n [] = [] := rfl

@[simp] theorem stamp_singleton (n : Nat) (m : Member × Payload) :
    stamp n [m] = [⟨n, m.1, .pack m.2⟩] := rfl

theorem stamp_append (n : Nat) (ms ms' : List (Member × Payload)) :
    stamp n (ms ++ ms') = stamp n ms ++ stamp (n + ms.length) ms' := by
  induction ms generalizing n with
  | nil => rfl
  | cons m ms ih =>
    have shift : n + 1 + ms.length = n + (ms.length + 1) := by omega
    simp [stamp, ih, shift]

theorem sequence_stamp (n : Nat) (ms : List (Member × Payload)) :
    (stamp n ms).map Envelope.sequence = List.range' n ms.length := by
  induction ms generalizing n with
  | nil => rfl
  | cons m ms ih => simp [stamp, ih, List.range'_succ]

theorem content_stamp (n : Nat) (ms : List (Member × Payload)) :
    (stamp n ms).map (fun e => (e.sender, e.payload)) = ms := by
  induction ms generalizing n with
  | nil => rfl
  | cons m ms ih => rw [stamp, List.map_cons, ih]; rfl

theorem packed_of_mem_stamp {n : Nat} {ms : List (Member × Payload)} {e : Envelope}
    (h : e ∈ stamp n ms) : e.parcel = .pack e.payload := by
  induction ms generalizing n with
  | nil => cases h
  | cons m ms ih =>
    rcases List.mem_cons.mp h with rfl | later
    · rfl
    · exact ih later

namespace World

/-! ## Worlds with the same messages -/

/-- From one world to the other no message moved, though waiters may have come, gone or been
called. -/
structure Still (w w' : World) : Prop where
  envelopes : ∀ q, (w'.queue q).envelopes = (w.queue q).envelopes
  nextSequence : ∀ q, (w'.queue q).nextSequence = (w.queue q).nextSequence
  links : w.links <+: w'.links
  sent : ∀ q, w'.sent q = w.sent q
  taken : ∀ q, w'.taken q = w.taken q
  linked : w.Linked → w'.Linked

theorem Quiet.still {w w' : World} (h : w.Quiet w') : w.Still w' where
  envelopes q := by rw [queue, h.queues, queue]
  nextSequence q := by rw [queue, h.queues, queue]
  links := h.links
  sent := h.sent
  taken := h.taken
  linked := h.linked

theorem Still.refl (w : World) : w.Still w := (Quiet.refl w).still

theorem Still.trans {w w' w'' : World} (h : w.Still w') (h' : w'.Still w'') : w.Still w'' where
  envelopes q := (h'.envelopes q).trans (h.envelopes q)
  nextSequence q := (h'.nextSequence q).trans (h.nextSequence q)
  links := h.links.trans h'.links
  sent q := (h'.sent q).trans (h.sent q)
  taken q := (h'.taken q).trans (h.taken q)
  linked hw := h'.linked (h.linked hw)

/-- A look that finds nothing moves nothing. -/
theorem still_of_lookFor_none {w w' : World} {me : Waiter} {s : Session}
    (h : w.lookFor me s = (none, w')) : w.Still w' := by
  obtain ⟨empty, parked⟩ := queue_of_lookFor_none h
  have snd : (w.lookFor me s).2 = w' := by rw [h]
  refine ⟨fun q => ?_, fun q => ?_, ?_, fun q => ?_, fun q => ?_, fun hw => ?_⟩
  · by_cases hq : q = s.inbound
    · subst hq; rw [parked]
    · rw [← snd, queue_lookFor_of_ne w me s hq]
  · by_cases hq : q = s.inbound
    · subst hq; rw [parked]
    · rw [← snd, queue_lookFor_of_ne w me s hq]
  · exact snd ▸ links_lookFor w me s ▸ List.prefix_refl _
  · rw [← snd, sent_lookFor]
  · rw [← snd, taken_lookFor, h]
    simp
  · exact snd ▸ hw.lookFor me s

theorem still_answerCall (w : World) (me : Waiter) (s : Session) : w.Still (w.answerCall me s) := by
  refine ⟨fun q => ?_, fun q => ?_, List.prefix_refl _, fun _ => rfl, fun _ => rfl,
    fun h => ⟨h.numbers, h.attached⟩⟩
  · by_cases hq : q = s.inbound
    · subst hq; rw [queue_answerCall_self]; rfl
    · rw [queue_answerCall_of_ne w me s hq]
  · by_cases hq : q = s.inbound
    · subst hq; rw [queue_answerCall_self]; rfl
    · rw [queue_answerCall_of_ne w me s hq]

/-- A receiver that gives up takes nothing. -/
theorem still_withdraw (w : World) (me : Waiter) (s : Session) : w.Still (w.withdraw me s) := by
  refine ⟨fun q => ?_, fun q => ?_, List.prefix_refl _, fun _ => rfl, fun _ => rfl,
    fun h => ⟨h.numbers, h.attached⟩⟩
  · by_cases hq : q = s.inbound
    · subst hq; rw [queue_withdraw_self, Queue.envelopes_withdraw]
    · rw [queue_withdraw_of_ne w me s hq]
  · by_cases hq : q = s.inbound
    · subst hq; rw [queue_withdraw_self, Queue.nextSequence_withdraw]
    · rw [queue_withdraw_of_ne w me s hq]

/-- Whoever is ready may change without a message moving. -/
theorem still_ready (w : World) (ready : List Waiter) : w.Still { w with ready } where
  envelopes _ := rfl
  nextSequence _ := rfl
  links := List.prefix_refl _
  sent _ := rfl
  taken _ := rfl
  linked h := ⟨h.numbers, h.attached⟩

/-! ## Balance -/

/-- From one world to the other, each queue lost what these transfers took out and gained what they
sent in. -/
structure Balanced (w : World) (ts : List Transfer) (w' : World) : Prop where
  /-- The numbers of a queue go on with every message that is sent. -/
  nextSequence : ∀ q, (w'.queue q).nextSequence =
    (w.queue q).nextSequence + (ts.filterMap (Transfer.into? q)).length
  /-- What was taken, and then what is left, is what was there before, and then what was sent. -/
  conserved : ∀ q, ts.filterMap (Transfer.outOf? q) ++ (w'.queue q).envelopes =
    (w.queue q).envelopes ++ stamp (w.queue q).nextSequence (ts.filterMap (Transfer.into? q))

namespace Balanced

variable {w w' w'' : World} {ts us : List Transfer}

theorem still (h : w.Still w') : Balanced w [] w' where
  nextSequence q := by simp [h.nextSequence]
  conserved q := by simp [h.envelopes]

theorem send (w : World) (s : Session) (p : Payload) :
    Balanced w [.sent s p] (w.send s p) := by
  refine ⟨fun q => ?_, fun q => ?_⟩
  · by_cases hq : q = s.outbound
    · subst hq
      simp [queue_send_self, Transfer.into?]
    · simp [queue_send_of_ne w s p hq, Transfer.into?, Ne.symm hq]
  · by_cases hq : q = s.outbound
    · subst hq
      simp [queue_send_self, Transfer.into?, Transfer.outOf?, Queue.nextEnvelope]
    · simp [queue_send_of_ne w s p hq, Transfer.into?, Transfer.outOf?, Ne.symm hq]

theorem take {me : Waiter} {s : Session} {e : Envelope} (found : w.lookFor me s = (some e, w')) :
    Balanced w [.taken s e] w' := by
  obtain ⟨rest, queued, left⟩ := queue_of_lookFor_some found
  have others : ∀ q, q ≠ s.inbound → w'.queue q = w.queue q := fun q hq => by
    have same := queue_lookFor_of_ne w me s hq
    rwa [found] at same
  refine ⟨fun q => ?_, fun q => ?_⟩
  · by_cases hq : q = s.inbound
    · subst hq
      simp [left, Transfer.into?]
    · simp [others q hq, Transfer.into?]
  · by_cases hq : q = s.inbound
    · subst hq
      simp [left, queued, List.filterMap_cons, Transfer.into?, Transfer.outOf?]
    · simp [others q hq, List.filterMap_cons, Transfer.into?, Transfer.outOf?, Ne.symm hq]

theorem trans (h : Balanced w ts w') (h' : Balanced w' us w'') : Balanced w (ts ++ us) w'' where
  nextSequence q := by
    rw [h'.nextSequence, h.nextSequence, List.filterMap_append, List.length_append]
    omega
  conserved q := by
    rw [List.filterMap_append, List.append_assoc, h'.conserved, ← List.append_assoc, h.conserved,
      List.filterMap_append, stamp_append, h.nextSequence q, List.append_assoc]

/-- Every message that is left in a queue was packed as it was sent. -/
theorem packed (h : Balanced {} ts w) {q : QueueId} {e : Envelope}
    (queued : e ∈ (w.queue q).envelopes) : e.parcel = .pack e.payload := by
  have sent := List.mem_append_right (ts.filterMap (Transfer.outOf? q)) queued
  rw [h.conserved q] at sent
  exact packed_of_mem_stamp sent

end Balanced

/-! ## Exchanges -/

/-- One world came from the other by these transfers, in this order, each through a session of a
link of the world. -/
inductive Exchange : World → List Transfer → World → Prop where
  | still {w w' : World} (h : w.Still w') : Exchange w [] w'
  | send {w : World} {s : Session} {p : Payload} (made : w.Made s) :
      Exchange w [.sent s p] (w.send s p)
  | take {w w' : World} {me : Waiter} {s : Session} {e : Envelope} (made : w.Made s)
      (found : w.lookFor me s = (some e, w')) : Exchange w [.taken s e] w'
  | trans {w w' w'' : World} {ts us : List Transfer} (first : Exchange w ts w')
      (second : Exchange w' us w'') : Exchange w (ts ++ us) w''

namespace Exchange

variable {w w' : World} {ts : List Transfer}

theorem refl (w : World) : Exchange w [] w := .still (.refl w)

theorem before {w'' : World} (ex : Exchange w ts w') (h : w'.Still w'') : Exchange w ts w'' := by
  simpa using ex.trans (.still h)

theorem links (ex : Exchange w ts w') : w.links <+: w'.links := by
  induction ex with
  | still h => exact h.links
  | @send w s p => exact links_send w s p ▸ List.prefix_refl _
  | @take w w' me s _ _ found =>
    have same := links_lookFor w me s
    rw [found] at same
    exact same ▸ List.prefix_refl _
  | trans _ _ first second => exact first.trans second

theorem linked (ex : Exchange w ts w') (hw : w.Linked) : w'.Linked := by
  induction ex with
  | still h => exact h.linked hw
  | send => exact hw.send _ _
  | @take w w' me s _ _ found =>
    have kept := hw.lookFor me s
    rwa [found] at kept
  | trans _ _ first second => exact second (first hw)

/-- Only sessions of links of the world are used. -/
theorem made (ex : Exchange w ts w') : ∀ t ∈ ts, w'.Made t.session := by
  induction ex with
  | still => simp
  | @send w s p made =>
    intro t ht
    rw [List.mem_singleton.mp ht]
    exact made.mono (links_send w s p ▸ List.prefix_refl _)
  | @take w w' me s e made found =>
    intro t ht
    rw [List.mem_singleton.mp ht]
    exact made.mono (take made found).links
  | trans _ second ih ih' =>
    intro t ht
    rcases List.mem_append.mp ht with ht | ht
    · exact (ih t ht).mono second.links
    · exact ih' t ht

/-- An exchange balances every queue. -/
theorem balanced (ex : Exchange w ts w') : Balanced w ts w' := by
  induction ex with
  | still h => exact .still h
  | send => exact .send _ _ _
  | take _ found => exact .take found
  | trans _ _ first second => exact first.trans second

theorem nextSequence (ex : Exchange w ts w') (q : QueueId) : (w'.queue q).nextSequence =
    (w.queue q).nextSequence + (ts.filterMap (Transfer.into? q)).length :=
  ex.balanced.nextSequence q

/-- **Conservation.** What was taken from a queue, and then what is left, is what was there before,
and then what was sent. -/
theorem conserved (ex : Exchange w ts w') (q : QueueId) :
    ts.filterMap (Transfer.outOf? q) ++ (w'.queue q).envelopes =
      (w.queue q).envelopes ++
        stamp (w.queue q).nextSequence (ts.filterMap (Transfer.into? q)) :=
  ex.balanced.conserved q

/-- The log tells what was taken. -/
theorem taken (ex : Exchange w ts w') (q : QueueId) :
    w'.taken q = w.taken q ++ ts.filterMap (Transfer.outOf? q) := by
  induction ex with
  | still h => simp [h.taken]
  | send => simp [taken_send, Transfer.outOf?]
  | @take w w' me s e _ found =>
    have told := taken_lookFor w me s q
    rw [found] at told
    by_cases hq : s.inbound = q <;> simp [told, hq, Transfer.outOf?]
  | trans _ _ first second => simp [second, first]

/-- The log tells what was sent, and under which number. -/
theorem sent (ex : Exchange w ts w') (q : QueueId) : w'.sent q =
    w.sent q ++ stamp (w.queue q).nextSequence (ts.filterMap (Transfer.into? q)) := by
  induction ex with
  | still h => simp [h.sent]
  | @send w s p =>
    by_cases hq : s.outbound = q
    · subst hq
      simp [sent_send, Transfer.into?, Queue.nextEnvelope]
    · simp [sent_send, Transfer.into?, hq]
  | @take w w' me s e _ found =>
    have told := sent_lookFor w me s q
    rw [found] at told
    simp [told, List.filterMap_cons, Transfer.into?]
  | trans ex _ first second =>
    rw [second, first, List.filterMap_append, stamp_append, ex.nextSequence q, List.append_assoc]

/-- Where nothing was before, what the log tells of is what was taken, and then what is left. -/
theorem told (ex : Exchange {} ts w) (q : QueueId) :
    w.taken q ++ (w.queue q).envelopes = w.sent q := by
  rw [ex.taken, ex.sent]
  exact ex.conserved q

end Exchange

end World

end Rehearsal
