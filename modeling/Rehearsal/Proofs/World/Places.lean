import Mathlib.Logic.Function.Basic
import Rehearsal.Proofs.Link.Waiters
import Rehearsal.Proofs.World.Acts

/-!
# Where waiters are

Every waiter is in one place: away, ready to go on, or at one queue. Whoever is called at a queue is
ready as well. What somebody does who is away leaves all waiters in their places, though it may call
some of them.
-/

namespace Rehearsal

/-- Where a waiter is. -/
inductive Place where
  /-- At work, asleep, or over. -/
  | away
  /-- Able to go on. -/
  | ready
  /-- Waiting for a message of this queue, called or not. -/
  | listens (q : QueueId)

namespace World

/-- The world has its waiters in these places. -/
structure Places (w : World) (place : Waiter → Place) : Prop where
  nodup : w.ready.Nodup
  ready : ∀ i, i ∈ w.ready ↔ place i = .ready ∨ ∃ q, i ∈ (w.queue q).called
  hosts : ∀ q, (w.queue q).Hosts fun i => place i = .listens q

namespace Places

variable {w w' : World} {place : Waiter → Place} {me : Waiter} {s : Session}

theorem empty : ({} : World).Places fun _ => .away where
  nodup := List.nodup_nil
  ready := by simp [queue, default]
  hosts q := Queue.Hosts.empty.congr (by simp)

theorem quiet (h : w.Places place) (hq : w.Quiet w') : w'.Places place := by
  have same : ∀ q, w'.queue q = w.queue q := fun q => by rw [queue, hq.queues, queue]
  refine ⟨hq.ready ▸ h.nodup, fun i => ?_, fun q => same q ▸ h.hosts q⟩
  rw [hq.ready, h.ready i]
  simp only [same]

theorem listens_of_called (h : w.Places place) {q : QueueId} {i : Waiter}
    (hi : i ∈ (w.queue q).called) : place i = .listens q :=
  (h.hosts q).here_of_called hi

theorem not_called (h : w.Places place) {i : Waiter} (hi : ∀ q, place i ≠ .listens q)
    (q : QueueId) : i ∉ (w.queue q).called :=
  fun hc => hi q (h.listens_of_called hc)

theorem not_called_elsewhere (h : w.Places place) {q : QueueId} {i : Waiter}
    (hi : place i = .listens q) : ¬ ∃ q', q' ≠ q ∧ i ∈ (w.queue q').called := by
  rintro ⟨q', hq, hc⟩
  have there := h.listens_of_called hc
  rw [hi] at there
  cases there
  exact hq rfl

theorem not_ready_of_parked (h : w.Places place) {q : QueueId} {i : Waiter}
    (hi : i ∈ (w.queue q).parked) : i ∉ w.ready := by
  have here : place i = .listens q := (h.hosts q).here_of_parked hi
  rw [h.ready i, here]
  rintro (absurdity | ⟨q', hc⟩)
  · cases absurdity
  · have there := h.listens_of_called hc
    rw [here] at there
    cases there
    exact (h.hosts q).not_called_of_parked hi hc

theorem not_ready_of_away (h : w.Places place) {i : Waiter} (hi : place i = .away) :
    i ∉ w.ready := by
  rw [h.ready i]
  rintro (absurdity | ⟨q, hc⟩)
  · rw [hi] at absurdity
    cases absurdity
  · exact h.not_called (fun q hq => by rw [hi] at hq; cases hq) q hc

/-- Only one queue changed, and nobody moved from or to another one. -/
theorem update (h : w.Places place) {place' : Waiter → Place} (q : QueueId)
    (same : ∀ q', q' ≠ q → w'.queue q' = w.queue q')
    (kept : ∀ i q', q' ≠ q → (place i = .listens q' ↔ place' i = .listens q'))
    (hosts : (w'.queue q).Hosts fun i => place' i = .listens q) (nodup : w'.ready.Nodup)
    (ready : ∀ i, i ∈ w'.ready ↔ place' i = .ready ∨
      (∃ q', q' ≠ q ∧ i ∈ (w.queue q').called) ∨ i ∈ (w'.queue q).called) : w'.Places place' := by
  refine ⟨nodup, fun i => ?_, fun q' => ?_⟩
  · rw [ready i]
    refine or_congr_right ⟨?_, ?_⟩
    · rintro (⟨q', hq, hc⟩ | hc)
      · exact ⟨q', (same q' hq).symm ▸ hc⟩
      · exact ⟨q, hc⟩
    · rintro ⟨q', hc⟩
      by_cases hq : q' = q
      · exact .inr (hq ▸ hc)
      · exact .inl ⟨q', hq, same q' hq ▸ hc⟩
  · by_cases hq : q' = q
    · subst hq
      exact hosts
    · rw [same q' hq]
      exact (h.hosts q').congr fun i => kept i q' hq

/-- Who is ready, with one queue singled out. -/
theorem ready_at (h : w.Places place) (q : QueueId) (i : Waiter) : i ∈ w.ready ↔
    place i = .ready ∨ (∃ q', q' ≠ q ∧ i ∈ (w.queue q').called) ∨ i ∈ (w.queue q).called := by
  rw [h.ready i]
  refine or_congr_right ⟨fun ⟨q', hc⟩ => ?_, ?_⟩
  · by_cases hq : q' = q
    · exact .inr (hq ▸ hc)
    · exact .inl ⟨q', hq, hc⟩
  · rintro (⟨q', -, hc⟩ | hc)
    · exact ⟨q', hc⟩
    · exact ⟨q, hc⟩

/-- Calling parked waiters makes them ready. -/
theorem nodup_append_called (h : w.Places place) {q : QueueId} {called : Option Waiter}
    (parked : ∀ i ∈ called.toList, i ∈ (w.queue q).parked) :
    (w.ready ++ called.toList).Nodup := by
  refine List.nodup_append.mpr ⟨h.nodup, ?_, fun i hi j hj he => ?_⟩
  · cases called <;> simp
  · exact h.not_ready_of_parked (parked j hj) (he ▸ hi)

/-! ## What somebody does who is away -/

/-- Sending may call somebody, and moves nobody. -/
theorem send (h : w.Places place) (s : Session) (p : Payload) : (w.send s p).Places place := by
  refine h.update s.outbound (fun q hq => queue_send_of_ne w s p hq) (fun _ _ _ => Iff.rfl) ?_ ?_
    fun i => ?_
  · rw [queue_send_self]
    exact (h.hosts _).send s.owner (.pack p)
  · exact h.nodup_append_called fun i hi =>
      Queue.parked_of_ring (q := (w.queue s.outbound).append s.owner (.pack p)) hi
  · rw [ready_send, List.mem_append, h.ready_at s.outbound i, queue_send_self, Queue.called_ring,
      List.mem_append, Queue.called_append, or_assoc, or_assoc]

/-- Taking a message moves nobody. -/
theorem take (h : w.Places place) {e : Envelope} (found : w.lookFor me s = (some e, w')) :
    w'.Places place := by
  obtain ⟨rest, queued, left⟩ := queue_of_lookFor_some found
  have ready : w'.ready = w.ready := ready_of_lookFor found
  refine h.update s.inbound (fun q hq => queue_of_lookFor_ne found hq)
    (fun _ _ _ => Iff.rfl) ?_ (ready ▸ h.nodup) fun i => ?_
  · rw [left]
    exact (h.hosts _).take queued
  · rw [ready, left]
    exact h.ready_at s.inbound i

/-- Whoever looks in vain is parked. -/
theorem park (h : w.Places place) (away : place me = .away)
    (missed : w.lookFor me s = (none, w')) :
    w'.Places (Function.update place me (.listens s.inbound)) := by
  obtain ⟨empty, left⟩ := queue_of_lookFor_none missed
  have ready : w'.ready = w.ready := ready_of_lookFor missed
  have new : ¬ place me = .listens s.inbound := by rw [away]; simp
  refine h.update s.inbound (fun q hq => queue_of_lookFor_ne missed hq)
    (fun i q hq => ?_) ?_ (ready ▸ h.nodup) fun i => ?_
  · by_cases hi : i = me
    · subst hi
      simp [away, Ne.symm hq]
    · simp [hi]
  · rw [left]
    refine ((h.hosts _).park empty new).congr fun i => ?_
    by_cases hi : i = me <;> simp [hi]
  · rw [ready, left, h.ready_at s.inbound i]
    by_cases hi : i = me
    · subst hi
      simp [away]
    · simp [hi]

/-- Whoever waits at a queue may leave it, called or not. -/
theorem withdraw (h : w.Places place) (listens : place me = .listens s.inbound) :
    ({ w.withdraw me s with ready := (w.withdraw me s).ready.erase me } : World).Places
      (Function.update place me .away) := by
  have parked : ∀ i ∈ ((w.queue s.inbound).withdraw me).1.toList,
      i ∈ (w.queue s.inbound).parked ∧ i ≠ me :=
    fun i hi => (h.hosts _).parked_of_withdraw hi
  have nodup : (w.withdraw me s).ready.Nodup :=
    h.nodup_append_called fun i hi => (parked i hi).1
  refine h.update s.inbound (fun q hq => queue_withdraw_of_ne w me s hq) (fun i q hq => ?_) ?_
    (nodup.erase me) fun i => ?_
  · by_cases hi : i = me
    · subst hi
      simp [listens, Ne.symm hq]
    · simp [hi]
  · show ((w.withdraw me s).queue s.inbound).Hosts _
    rw [queue_withdraw_self]
    refine ((h.hosts _).withdraw listens).congr fun i => ?_
    by_cases hi : i = me <;> simp [hi]
  · show i ∈ (w.withdraw me s).ready.erase me ↔ _ ∨ _ ∨ i ∈ ((w.withdraw me s).queue _).called
    rw [nodup.mem_erase_iff, ready_withdraw, List.mem_append, h.ready_at s.inbound i,
      queue_withdraw_self, (h.hosts _).called_withdraw]
    -- Whoever leaves was called at this queue or at none, and is not the one called instead.
    by_cases hi : i = me
    · subst hi
      have elsewhere := h.not_called_elsewhere listens
      have notMe : i ∉ ((w.queue s.inbound).withdraw i).1.toList := fun hc => (parked i hc).2 rfl
      simp only [ne_eq, not_true_eq_false, false_and, and_false, or_false, Function.update_self,
        reduceCtorEq, notMe, false_or, false_iff]
      exact elsewhere
    · simp only [ne_eq, hi, not_false_eq_true, true_and, and_true, Function.update_of_ne, or_assoc]

/-- Whoever looks in vain and gives up leaves no trace among the waiters. -/
theorem giveUp (h : w.Places place) (away : place me = .away)
    (missed : w.lookFor me s = (none, w')) :
    (w'.withdraw me s).Places place ∧ (w'.withdraw me s).ready = w.ready := by
  have parked := h.park away missed
  have here : Function.update place me (.listens s.inbound) me = .listens s.inbound := by simp
  have gone := parked.withdraw here
  have calls : ((w'.queue s.inbound).withdraw me).1 = none := by
    have notCalled : me ∉ (w'.queue s.inbound).called := by
      obtain ⟨-, left⟩ := queue_of_lookFor_none missed
      rw [left]
      exact h.not_called (fun q hq => by rw [away] at hq; cases hq) _
    simp [Queue.withdraw, notCalled]
  have ready : (w'.withdraw me s).ready = w.ready := by
    rw [ready_withdraw, calls]
    have same : w'.ready = w.ready := ready_of_lookFor missed
    simp [same]
  have absent : me ∉ (w'.withdraw me s).ready := ready ▸ h.not_ready_of_away away
  rw [List.erase_of_not_mem absent] at gone
  refine ⟨?_, ready⟩
  have back : Function.update (Function.update place me (.listens s.inbound)) me .away = place := by
    rw [Function.update_idem, ← away, Function.update_eq_self]
  exact back ▸ gone

/-- Whatever somebody does who is away moves nobody, and every message that is sent calls at most
one. -/
theorem acts {ts : List Transfer} (acts : Acts me w ts w') (h : w.Places place)
    (away : place me = .away) :
    w'.Places place ∧ w'.ready.length ≤ w.ready.length + Transfer.sends ts := by
  induction acts with
  | quiet hq => exact ⟨h.quiet hq, by simp [hq.ready]⟩
  | @send w s p =>
    refine ⟨h.send s p, ?_⟩
    rw [ready_send, List.length_append]
    cases ((w.queue s.outbound).append s.owner (.pack p)).ring.1 <;>
      simp [Transfer.sends, Transfer.isSent]
  | @take w w' s e _ found =>
    have ready : w'.ready = w.ready := ready_of_lookFor found
    exact ⟨h.take found, by simp [ready]⟩
  | giveUp missed =>
    obtain ⟨places, ready⟩ := h.giveUp away missed
    exact ⟨places, by simp [ready]⟩
  | trans _ _ first second =>
    obtain ⟨places, length⟩ := first h
    obtain ⟨places', length'⟩ := second places
    refine ⟨places', ?_⟩
    rw [Transfer.sends_append]
    omega

/-! ## Turns -/

/-- Whoever is ready and waits for no message begins its turn. -/
theorem leave (h : w.Places place) (ready : place me = .ready) :
    ({ w with ready := w.ready.erase me } : World).Places (Function.update place me .away) := by
  have notCalled := h.not_called (i := me) fun q hq => by rw [ready] at hq; cases hq
  refine ⟨h.nodup.erase me, fun i => ?_, fun q => (h.hosts q).congr fun i => ?_⟩
  · show i ∈ w.ready.erase me ↔ _ ∨ ∃ q, i ∈ (w.queue q).called
    rw [h.nodup.mem_erase_iff, h.ready i]
    by_cases hi : i = me
    · subst hi
      simp [notCalled]
    · simp [hi]
  · by_cases hi : i = me
    · subst hi
      simp [ready]
    · simp [hi]

/-- Whoever was called comes back and finds a message. -/
theorem resume_take (h : w.Places place) (called : me ∈ (w.queue s.inbound).called)
    {e : Envelope} (found : ({ w with ready := w.ready.erase me }.answerCall me s).lookFor me s =
      (some e, w')) : w'.Places (Function.update place me .away) := by
  obtain ⟨rest, queued, left⟩ := queue_of_lookFor_some found
  rw [queue_answerCall_self] at queued left
  have ready : w'.ready = w.ready.erase me := ready_of_lookFor found
  have listens := h.listens_of_called called
  refine h.update s.inbound (fun q hq => ?_) (fun i q hq => ?_) ?_ (ready ▸ h.nodup.erase me)
    fun i => ?_
  · rw [queue_of_lookFor_ne found hq, queue_answerCall_of_ne _ _ _ hq]
    rfl
  · by_cases hi : i = me
    · subst hi
      simp [listens, Ne.symm hq]
    · simp [hi]
  · rw [left]
    refine ((h.hosts _).answer_take called queued).congr fun i => ?_
    by_cases hi : i = me <;> simp [hi]
  · rw [ready, left, h.nodup.mem_erase_iff, h.ready_at s.inbound i]
    have once := (List.nodup_append.mp (h.hosts s.inbound).nodup).2.1
    show _ ↔ _ ∨ _ ∨ i ∈ (w.queue s.inbound).called.erase me
    rw [once.mem_erase_iff]
    by_cases hi : i = me
    · subst hi
      simp only [ne_eq, not_true_eq_false, false_and, Function.update_self, reduceCtorEq, false_or,
        or_false, false_iff]
      exact h.not_called_elsewhere listens
    · simp [hi]

/-- Whoever was called comes back too late, and stays at its queue. -/
theorem resume_park (h : w.Places place) (called : me ∈ (w.queue s.inbound).called)
    (missed : ({ w with ready := w.ready.erase me }.answerCall me s).lookFor me s = (none, w')) :
    w'.Places place := by
  obtain ⟨empty, left⟩ := queue_of_lookFor_none missed
  rw [queue_answerCall_self] at empty left
  have ready : w'.ready = w.ready.erase me := ready_of_lookFor missed
  have listens := h.listens_of_called called
  refine h.update s.inbound (fun q hq => ?_) (fun _ _ _ => Iff.rfl) ?_ (ready ▸ h.nodup.erase me)
    fun i => ?_
  · rw [queue_of_lookFor_ne missed hq, queue_answerCall_of_ne _ _ _ hq]
    rfl
  · rw [left]
    exact (h.hosts _).answer_park called empty
  · rw [ready, left, h.nodup.mem_erase_iff, h.ready_at s.inbound i]
    have once := (List.nodup_append.mp (h.hosts s.inbound).nodup).2.1
    show _ ↔ _ ∨ _ ∨ i ∈ (w.queue s.inbound).called.erase me
    rw [once.mem_erase_iff]
    by_cases hi : i = me
    · subst hi
      simp only [ne_eq, not_true_eq_false, false_and, false_or, or_false, false_iff, listens,
        reduceCtorEq]
      exact h.not_called_elsewhere listens
    · simp [hi]

/-- Whoever lets the others go first stays ready. -/
theorem pause (h : w.Places place) (away : place me = .away) :
    ({ w with ready := w.ready ++ [me] } : World).Places (Function.update place me .ready) := by
  have absent := h.not_ready_of_away away
  have nodup : (w.ready ++ [me]).Nodup :=
    List.nodup_append.mpr ⟨h.nodup, List.nodup_singleton me, fun i hi j hj he => by
      rw [List.mem_singleton] at hj
      exact absent (hj ▸ he ▸ hi)⟩
  refine ⟨nodup, fun i => ?_, fun q => (h.hosts q).congr fun i => ?_⟩
  · show i ∈ w.ready ++ [me] ↔ _ ∨ ∃ q, i ∈ (w.queue q).called
    rw [List.mem_append, h.ready i]
    by_cases hi : i = me <;> simp [hi]
  · by_cases hi : i = me
    · subst hi
      simp [away]
    · simp [hi]

/-- Some who were away are ready now. -/
theorem wake (h : w.Places place) {woken : List Waiter} (once : woken.Nodup)
    (away : ∀ i ∈ woken, place i = .away) :
    ({ w with ready := w.ready ++ woken } : World).Places
      fun i => if i ∈ woken then .ready else place i := by
  have nodup : (w.ready ++ woken).Nodup :=
    List.nodup_append.mpr ⟨h.nodup, once, fun i hi j hj he =>
      h.not_ready_of_away (away j hj) (he ▸ hi)⟩
  refine ⟨nodup, fun i => ?_, fun q => (h.hosts q).congr fun i => ?_⟩
  · show i ∈ w.ready ++ woken ↔ _ ∨ ∃ q, i ∈ (w.queue q).called
    rw [List.mem_append, h.ready i]
    by_cases hi : i ∈ woken <;> simp [hi]
  · by_cases hi : i ∈ woken
    · simp [hi, away i hi]
    · simp [hi]

end Places

end World

end Rehearsal
