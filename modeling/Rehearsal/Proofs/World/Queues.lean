import Rehearsal.Proofs.World.History

/-!
# How the world's queues change

Sending, looking and giving up each change one queue, whoever they call, and the log. The equations
here say which, so that later proofs need not open these operations.
-/

namespace Rehearsal

namespace World

variable (w : World) (me : Waiter) (s : Session) (p : Payload)

/-! ## Sending -/

theorem queue_send_self : (w.send s p).queue s.outbound =
    (((w.queue s.outbound).append s.owner (.pack p)).ring).2 := by
  simp [send, sendParcel, push, note, queue]

theorem queue_send_of_ne {q : QueueId} (h : q ≠ s.outbound) :
    (w.send s p).queue q = w.queue q := by
  simp [send, sendParcel, push, note, queue, h]

theorem ready_send : (w.send s p).ready =
    w.ready ++ (((w.queue s.outbound).append s.owner (.pack p)).ring).1.toList := rfl

theorem links_send : (w.send s p).links = w.links := by
  simp [send, sendParcel, push, note, links, Event.link?]

theorem sent_send (q : QueueId) : (w.send s p).sent q =
    w.sent q ++
      if s.outbound = q then [(w.queue s.outbound).nextEnvelope s.owner (.pack p)] else [] := by
  by_cases h : s.outbound = q <;> simp [send, sendParcel, push, note, sent, Event.sent?, h]

theorem taken_send (q : QueueId) : (w.send s p).taken q = w.taken q := by
  simp [send, sendParcel, push, note, taken, Event.taken?]

theorem Linked.send {w : World} (h : w.Linked) (s : Session) (p : Payload) :
    (w.send s p).Linked where
  numbers := by
    rw [links_send]
    exact h.numbers
  attached m x hx := (h.attached m x hx).mono (links_send w s p ▸ List.prefix_refl _)

/-! ## Looking for a message -/

/-- All that a look does: to one queue, and to the log if a message is found. -/
theorem lookFor_eq : w.lookFor me s = (((w.queue s.inbound).poll me).1,
    { w with
      queues := w.queues.set s.inbound ((w.queue s.inbound).poll me).2
      log := w.log ++ (((w.queue s.inbound).poll me).1.map fun e =>
        Event.messageReceived s.inbound e s.owner).toList }) := by
  unfold lookFor
  rcases (w.queue s.inbound).poll me with ⟨found, q⟩
  cases found <;> simp [note]

/-- A look where a message is left takes it out of its queue, and logs it. -/
theorem lookFor_cons {w : World} {s : Session} {e : Envelope} {rest : List Envelope}
    (queued : (w.queue s.inbound).envelopes = e :: rest) (me : Waiter) : ∃ log,
      w.lookFor me s = (some e, { w with
        queues := w.queues.set s.inbound { w.queue s.inbound with envelopes := rest }
        log }) := by
  have found := w.lookFor_eq me s
  rw [Queue.poll_of_cons queued] at found
  exact ⟨_, found⟩

theorem fst_lookFor : (w.lookFor me s).1 = ((w.queue s.inbound).poll me).1 := by
  rw [lookFor_eq]

/-- Whoever looks finds the oldest message, if there is one. -/
theorem lookFor_head : (w.lookFor me s).1 = (w.queue s.inbound).envelopes.head? := by
  rw [fst_lookFor]
  cases queued : (w.queue s.inbound).envelopes with
  | nil => rw [Queue.poll_of_nil queued, List.head?_nil]
  | cons e rest => rw [Queue.poll_of_cons queued, List.head?_cons]

theorem queue_lookFor_self :
    (w.lookFor me s).2.queue s.inbound = ((w.queue s.inbound).poll me).2 := by
  rw [lookFor_eq, queue]
  exact Store.get_set_self ..

theorem queue_lookFor_of_ne {q : QueueId} (h : q ≠ s.inbound) :
    (w.lookFor me s).2.queue q = w.queue q := by
  rw [lookFor_eq, queue]
  exact Store.get_set_of_ne _ _ h

theorem ready_lookFor : (w.lookFor me s).2.ready = w.ready := by
  rw [lookFor_eq]

theorem links_lookFor : (w.lookFor me s).2.links = w.links := by
  rw [lookFor_eq]
  cases ((w.queue s.inbound).poll me).1 <;> simp [links, Event.link?]

theorem sent_lookFor (q : QueueId) : (w.lookFor me s).2.sent q = w.sent q := by
  rw [lookFor_eq]
  cases ((w.queue s.inbound).poll me).1 <;> simp [sent, Event.sent?]

theorem taken_lookFor (q : QueueId) : (w.lookFor me s).2.taken q =
    w.taken q ++ if s.inbound = q then (w.lookFor me s).1.toList else [] := by
  rw [lookFor_eq]
  by_cases hq : s.inbound = q <;> cases ((w.queue s.inbound).poll me).1 <;>
    simp [hq, taken, Event.taken?]

theorem Linked.lookFor {w : World} (h : w.Linked) (me : Waiter) (s : Session) :
    (w.lookFor me s).2.Linked where
  numbers := by
    rw [links_lookFor, lookFor_eq]
    exact h.numbers
  attached m x hx := by
    rw [lookFor_eq] at hx
    exact (h.attached m x hx).mono (links_lookFor w me s ▸ List.prefix_refl _)

theorem ready_of_lookFor {w w' : World} {me : Waiter} {s : Session} {found : Option Envelope}
    (h : w.lookFor me s = (found, w')) : w'.ready = w.ready := by
  have same := ready_lookFor w me s
  rwa [h] at same

theorem queue_of_lookFor_ne {w w' : World} {me : Waiter} {s : Session} {found : Option Envelope}
    (h : w.lookFor me s = (found, w')) {q : QueueId} (hq : q ≠ s.inbound) :
    w'.queue q = w.queue q := by
  have same := queue_lookFor_of_ne w me s hq
  rwa [h] at same

/-- A look that finds a message finds the oldest and leaves the others. -/
theorem queue_of_lookFor_some {w w' : World} {me : Waiter} {s : Session} {e : Envelope}
    (h : w.lookFor me s = (some e, w')) : ∃ rest, (w.queue s.inbound).envelopes = e :: rest ∧
      w'.queue s.inbound = { w.queue s.inbound with envelopes := rest } := by
  have found := fst_lookFor w me s
  have left := queue_lookFor_self w me s
  rw [h] at found left
  cases hq : (w.queue s.inbound).envelopes with
  | nil =>
    rw [Queue.poll_of_nil hq] at found
    cases found
  | cons e' rest =>
    rw [Queue.poll_of_cons hq] at found left
    cases found
    exact ⟨rest, rfl, left⟩

/-- A look that finds nothing leaves an empty queue, and the receiver parked at it. -/
theorem queue_of_lookFor_none {w w' : World} {me : Waiter} {s : Session}
    (h : w.lookFor me s = (none, w')) : (w.queue s.inbound).envelopes = [] ∧
      w'.queue s.inbound = { w.queue s.inbound with
        permit := false, parked := (w.queue s.inbound).parked ++ [me] } := by
  have found := fst_lookFor w me s
  have left := queue_lookFor_self w me s
  rw [h] at found left
  cases hq : (w.queue s.inbound).envelopes with
  | nil =>
    rw [Queue.poll_of_nil hq] at left
    exact ⟨rfl, left⟩
  | cons e' rest =>
    rw [Queue.poll_of_cons hq] at found
    cases found

/-! ## Coming back and giving up -/

theorem queue_answerCall_self :
    (w.answerCall me s).queue s.inbound = (w.queue s.inbound).answer me := by
  simp [answerCall, queue, Store.modify]

theorem queue_answerCall_of_ne {q : QueueId} (h : q ≠ s.inbound) :
    (w.answerCall me s).queue q = w.queue q := by
  simp [answerCall, queue, Store.modify, h]

theorem queue_withdraw_self :
    (w.withdraw me s).queue s.inbound = ((w.queue s.inbound).withdraw me).2 := by
  simp [withdraw, queue]

theorem queue_withdraw_of_ne {q : QueueId} (h : q ≠ s.inbound) :
    (w.withdraw me s).queue q = w.queue q := by
  simp [withdraw, queue, h]

theorem ready_withdraw : (w.withdraw me s).ready =
    w.ready ++ ((w.queue s.inbound).withdraw me).1.toList := rfl

end World

end Rehearsal
