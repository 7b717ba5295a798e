import Mathlib.Data.List.Nodup
import Rehearsal.Link.Queue

/-!
# Who waits at a queue

A queue holds each of its waiters once, parked or called. The invariant that rules out lost calls is
`Queue.Hosts.heard`: while somebody is parked, no permit is left, and there are no more messages
than waiters who were called and have not looked again.
-/

namespace Rehearsal

namespace Queue

@[simp] theorem called_append (q : Queue) (sender : Member) (parcel : Parcel) :
    (q.append sender parcel).called = q.called := rfl

/-- Ringing moves one waiter from the parked to the called, or leaves a permit. -/
theorem mem_ring (q : Queue) (i : Waiter) :
    i ∈ q.ring.2.parked ++ q.ring.2.called ↔ i ∈ q.parked ++ q.called := by
  unfold ring
  split
  · rfl
  · next w rest hp =>
    simp only [hp, List.mem_append, List.mem_cons]
    tauto

theorem nodup_ring {q : Queue} (h : (q.parked ++ q.called).Nodup) :
    (q.ring.2.parked ++ q.ring.2.called).Nodup := by
  unfold ring
  split
  · exact h
  · next w rest hp =>
    rw [hp] at h
    have perm : (rest ++ (q.called ++ [w])).Perm (w :: rest ++ q.called) := by
      rw [← List.append_assoc]
      exact List.perm_append_singleton w _
    exact perm.nodup_iff.mpr h

theorem called_ring (q : Queue) : q.ring.2.called = q.called ++ q.ring.1.toList := by
  unfold ring
  split <;> simp

/-- Whoever is called by ringing was parked. -/
theorem parked_of_ring {q : Queue} {i : Waiter} (h : i ∈ q.ring.1.toList) : i ∈ q.parked := by
  unfold ring at h
  split at h
  · simp at h
  · next w rest hp =>
    rw [hp]
    simp at h
    simp [h]

/-- A queue has exactly these waiters, each once, and calls are not lost. -/
structure Hosts (q : Queue) (here : Waiter → Prop) : Prop where
  nodup : (q.parked ++ q.called).Nodup
  mem : ∀ i, i ∈ q.parked ++ q.called ↔ here i
  heard : q.parked ≠ [] → q.permit = false ∧ q.envelopes.length ≤ q.called.length

namespace Hosts

variable {q : Queue} {here : Waiter → Prop}

theorem empty : ({} : Queue).Hosts fun _ => False where
  nodup := List.nodup_nil
  mem := by simp
  heard h := absurd rfl h

theorem congr {there : Waiter → Prop} (h : q.Hosts here) (same : ∀ i, here i ↔ there i) :
    q.Hosts there :=
  ⟨h.nodup, fun i => (h.mem i).trans (same i), h.heard⟩

theorem here_of_parked (h : q.Hosts here) {i : Waiter} (hi : i ∈ q.parked) : here i :=
  (h.mem i).mp (List.mem_append_left _ hi)

theorem here_of_called (h : q.Hosts here) {i : Waiter} (hi : i ∈ q.called) : here i :=
  (h.mem i).mp (List.mem_append_right _ hi)

theorem not_called_of_parked (h : q.Hosts here) {i : Waiter} (hi : i ∈ q.parked) :
    i ∉ q.called :=
  fun hc => (List.nodup_append.mp h.nodup).2.2 i hi i hc rfl

/-- A message is sent, and the bell is rung. -/
theorem send (h : q.Hosts here) (sender : Member) (parcel : Parcel) :
    ((q.append sender parcel).ring).2.Hosts here := by
  refine ⟨nodup_ring h.nodup, fun i => (mem_ring _ i).trans (h.mem i), fun parked => ?_⟩
  unfold ring at parked ⊢
  split at parked
  · next hp => exact absurd hp parked
  · next w rest hp =>
    have hp : q.parked = w :: rest := hp
    have heard := h.heard (by simp [hp])
    simp only [append]
    refine ⟨heard.1, ?_⟩
    simpa using heard.2

/-- A message is taken. -/
theorem take (h : q.Hosts here) {e : Envelope} {rest : List Envelope}
    (queued : q.envelopes = e :: rest) : ({ q with envelopes := rest } : Queue).Hosts here := by
  refine ⟨h.nodup, h.mem, fun parked => ?_⟩
  have heard := h.heard parked
  rw [queued, List.length_cons] at heard
  exact ⟨heard.1, by dsimp only; omega⟩

/-- Somebody new is parked at an empty queue. -/
theorem park (h : q.Hosts here) (empty : q.envelopes = []) {me : Waiter} (new : ¬ here me) :
    ({ q with permit := false, parked := q.parked ++ [me] } : Queue).Hosts
      fun i => here i ∨ i = me := by
  have absent : me ∉ q.parked ++ q.called := fun hm => new ((h.mem me).mp hm)
  have perm : (q.parked ++ [me] ++ q.called).Perm (me :: (q.parked ++ q.called)) := by
    rw [List.append_assoc]
    exact List.perm_middle
  refine ⟨perm.nodup_iff.mpr (List.nodup_cons.mpr ⟨absent, h.nodup⟩), fun i => ?_, fun _ => ?_⟩
  · rw [perm.mem_iff, List.mem_cons, h.mem i]
    exact or_comm
  · simp [empty]

theorem erase_called (h : (q.parked ++ q.called).Nodup) (me : Waiter) :
    (q.parked ++ q.called.erase me).Nodup := by
  obtain ⟨parked, called, apart⟩ := List.nodup_append.mp h
  exact List.nodup_append.mpr
    ⟨parked, called.erase me, fun i hi j hj => apart i hi j (List.mem_of_mem_erase hj)⟩

theorem mem_erase_called (h : (q.parked ++ q.called).Nodup) {me : Waiter} (hm : me ∈ q.called)
    (i : Waiter) : i ∈ q.parked ++ q.called.erase me ↔ i ∈ q.parked ++ q.called ∧ i ≠ me := by
  obtain ⟨-, called, apart⟩ := List.nodup_append.mp h
  simp only [List.mem_append, called.mem_erase_iff]
  constructor
  · rintro (hi | ⟨hne, hi⟩)
    · exact ⟨.inl hi, fun he => apart i hi me hm he⟩
    · exact ⟨.inr hi, hne⟩
  · rintro ⟨hi | hi, hne⟩
    · exact .inl hi
    · exact .inr ⟨hne, hi⟩

/-- Somebody who was called comes back and finds a message. -/
theorem answer_take (h : q.Hosts here) {me : Waiter} (hm : me ∈ q.called) {e : Envelope}
    {rest : List Envelope} (queued : q.envelopes = e :: rest) :
    ({ q.answer me with envelopes := rest } : Queue).Hosts fun i => here i ∧ i ≠ me := by
  refine ⟨erase_called h.nodup me, fun i => ?_, fun parked => ?_⟩
  · rw [← h.mem i]
    exact mem_erase_called h.nodup hm i
  · have heard := h.heard parked
    rw [queued, List.length_cons] at heard
    simp only [answer, List.length_erase_of_mem hm]
    exact ⟨heard.1, by omega⟩

/-- Somebody who was called comes back too late, and is parked again. -/
theorem answer_park (h : q.Hosts here) {me : Waiter} (hm : me ∈ q.called)
    (empty : q.envelopes = []) :
    ({ q.answer me with permit := false, parked := q.parked ++ [me] } : Queue).Hosts here := by
  have perm : (q.parked ++ [me] ++ q.called.erase me).Perm (q.parked ++ q.called) := by
    rw [List.append_assoc]
    exact (List.perm_cons_erase hm).symm.append_left _
  refine ⟨perm.nodup_iff.mpr h.nodup, fun i => ?_, fun _ => ?_⟩
  · rw [← h.mem i]
    exact perm.mem_iff
  · simp [answer, empty]

/-- Somebody leaves. If it was called, somebody else is called instead. -/
theorem withdraw (h : q.Hosts here) {me : Waiter} (hm : here me) :
    (q.withdraw me).2.Hosts fun i => here i ∧ i ≠ me := by
  have present : me ∈ q.parked ++ q.called := (h.mem me).mpr hm
  unfold Queue.withdraw
  split
  · next hc =>
    -- A notified waiter passes its notification on, so the queue rings once more.
    have called : me ∈ q.called := by simpa using hc
    refine ⟨nodup_ring (erase_called h.nodup me), fun i => ?_, fun parked => ?_⟩
    · rw [mem_ring, ← h.mem i]
      exact mem_erase_called h.nodup called i
    · unfold ring at parked ⊢
      split at parked
      · next hp => exact absurd hp parked
      · next w rest hp =>
        have hp : q.parked = w :: rest := hp
        have heard := h.heard (by simp [hp])
        have pos : 0 < q.called.length := List.length_pos_of_mem called
        simp only [answer, List.length_append, List.length_erase_of_mem called,
          List.length_singleton]
        exact ⟨heard.1, by omega⟩
  · next hc =>
    -- A parked waiter leaves without a trace: nobody else is notified for it.
    have notCalled : me ∉ q.called := by simpa using hc
    obtain ⟨parked, called, apart⟩ := List.nodup_append.mp h.nodup
    refine ⟨List.nodup_append.mpr ⟨parked.erase me, called, fun i hi => apart i
      (List.mem_of_mem_erase hi)⟩, fun i => ?_, fun hp => ?_⟩
    · rw [← h.mem i]
      simp only [List.mem_append, parked.mem_erase_iff]
      constructor
      · rintro (⟨hne, hi⟩ | hi)
        · exact ⟨.inl hi, hne⟩
        · exact ⟨.inr hi, fun he => notCalled (he ▸ hi)⟩
      · rintro ⟨hi | hi, hne⟩
        · exact .inl ⟨hne, hi⟩
        · exact .inr hi
    · exact h.heard fun none => hp (by simp [none])

/-- Whoever is called as somebody leaves was parked, and was not the one that left. -/
theorem parked_of_withdraw (h : q.Hosts here) {me i : Waiter}
    (hi : i ∈ (q.withdraw me).1.toList) : i ∈ q.parked ∧ i ≠ me := by
  unfold Queue.withdraw at hi
  split at hi
  · next hc =>
    have called : me ∈ q.called := by simpa using hc
    have parked : i ∈ q.parked := parked_of_ring (q := q.answer me) hi
    exact ⟨parked, fun he => h.not_called_of_parked parked (he ▸ called)⟩
  · simp at hi

theorem called_withdraw (h : q.Hosts here) (me i : Waiter) : i ∈ (q.withdraw me).2.called ↔
    (i ∈ q.called ∧ i ≠ me) ∨ i ∈ (q.withdraw me).1.toList := by
  have called := (List.nodup_append.mp h.nodup).2.1
  unfold Queue.withdraw
  split
  · rw [called_ring, List.mem_append]
    simp [answer, called.mem_erase_iff, and_comm]
  · next hc =>
    have notCalled : me ∉ q.called := by simpa using hc
    simp only [Option.toList_none, List.not_mem_nil, or_false]
    exact ⟨fun hi => ⟨hi, fun he => notCalled (he ▸ hi)⟩, fun hi => hi.1⟩

end Hosts

end Queue

end Rehearsal
