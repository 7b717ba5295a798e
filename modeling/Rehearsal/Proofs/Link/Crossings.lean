import Rehearsal.Link.Queue

/-!
# Calls that cross at a queue

A send appends its message, and only then rings the bell. A receive looks, and only then waits.
Where the steps of several calls come in any order, the bell may ring for a receive that saw nothing
and does not wait yet, and the permit is kept for it. But one permit is kept, however many receives
are in between and however often the bell rings: all of them but one may go to sleep beside messages
that nobody will call them for. A queue whose receives are not interrupted between their look and
their wait has at most one there, and loses no call.
-/

namespace Rehearsal

namespace Queue

/-- A queue and the calls under way there, by where each will go on. Whoever is parked at the queue,
or was called there, is a receive too. -/
structure Traffic where
  queue : Queue := {}
  /-- How many sends appended their message and have not rung the bell yet. -/
  ringing : Nat := 0
  /-- Receives that are about to look. -/
  looking : List Waiter := []
  /-- Receives that saw an empty queue and do not wait yet. -/
  between : List Waiter := []

/-- One step of a call, which nothing interrupts. -/
inductive Move where
  /-- A send begins, and appends its message. -/
  | append (sender : Member) (parcel : Parcel)
  /-- A send rings the bell, and is over. -/
  | ring
  /-- A receive begins. -/
  | enter (i : Waiter)
  /-- A receive takes a message and is over, or sees that there is none. -/
  | look (i : Waiter)
  /-- A receive that saw none uses up the permit and will look again, or is parked. -/
  | await (i : Waiter)
  /-- A receive that was called is back, and will look again. -/
  | resume (i : Waiter)

namespace Traffic

/-- The traffic after one move, if there is a call that can make it. -/
def step (t : Traffic) : Move → Option Traffic
  | .append sender parcel =>
    some { t with queue := t.queue.append sender parcel, ringing := t.ringing + 1 }
  | .ring =>
    if 0 < t.ringing then some { t with queue := t.queue.ring.2, ringing := t.ringing - 1 }
    else none
  | .enter i =>
    if i ∈ t.looking ++ t.between ++ t.queue.parked ++ t.queue.called then none
    else some { t with looking := t.looking ++ [i] }
  | .look i =>
    if i ∈ t.looking then
      match t.queue.take? with
      | some (_, q) => some { t with queue := q, looking := t.looking.erase i }
      | none => some { t with looking := t.looking.erase i, between := t.between ++ [i] }
    else none
  | .await i =>
    if i ∈ t.between then
      match t.queue.await i with
      | (true, q) =>
        some { t with queue := q, between := t.between.erase i, looking := t.looking ++ [i] }
      | (false, q) => some { t with queue := q, between := t.between.erase i }
    else none
  | .resume i =>
    if i ∈ t.queue.called then
      some { t with queue := t.queue.answer i, looking := t.looking ++ [i] }
    else none

/-- The traffic after these moves, if each can be made. -/
def run (t : Traffic) : List Move → Option Traffic
  | [] => some t
  | m :: ms =>
    match t.step m with
    | some t' => t'.run ms
    | none => none

/-- The most receives that were between their look and their wait at once. -/
def widest (t : Traffic) : List Move → Nat
  | [] => t.between.length
  | m :: ms =>
    match t.step m with
    | some t' => max t.between.length (t'.widest ms)
    | none => t.between.length

/-- How many calls will ring the bell or look again. -/
def underway (t : Traffic) : Nat :=
  t.ringing + t.queue.called.length + t.looking.length

/-- Every send is over, every receive that is not over is parked and was not called, and there are
both a parked receive and a message. -/
structure IsForsaken (t : Traffic) : Prop where
  sent : t.ringing = 0
  looking : t.looking = []
  between : t.between = []
  called : t.queue.called = []
  parked : t.queue.parked ≠ []
  left : t.queue.envelopes ≠ []

/-! ## What crossing calls can lose -/

variable {t t' : Traffic} {m : Move} {ms : List Move} {most : Nat}

/-- No more than so many receives are, or will be, passed over: the others are called or need no
call. A permit counts for a call to one of those in between. -/
structure Serves (most : Nat) (t : Traffic) : Prop where
  unparked : t.queue.permit = true → t.queue.parked = []
  enough : t.queue.parked.length + t.between.length ≤ most + t.queue.permit.toNat ∨
    t.queue.envelopes.length ≤ t.underway + t.queue.permit.toNat + most

theorem Serves.empty : ({} : Traffic).Serves most := ⟨fun _ => rfl, .inr (Nat.zero_le _)⟩

theorem Serves.ring (h : t.Serves most) (narrow : t.between.length ≤ most + 1)
    (some : 0 < t.ringing) :
    ({ t with queue := t.queue.ring.2, ringing := t.ringing - 1 } : Traffic).Serves most := by
  have enough := h.enough
  unfold underway at enough
  unfold Queue.ring
  split
  · next nobody =>
    -- The bell rings for those in between, and a permit that is there already is all they get.
    refine ⟨fun _ => nobody, ?_⟩
    simp only [underway, nobody, List.length_nil, Bool.toNat_true] at enough ⊢
    have kept := Bool.toNat_le t.queue.permit
    omega
  · next i rest parked =>
    have permit : t.queue.permit = false := by
      cases permit : t.queue.permit with
      | false => rfl
      | true =>
        rw [h.unparked permit] at parked
        cases parked
    refine ⟨fun again => by simp [permit] at again, ?_⟩
    simp only [underway, parked, permit, List.length_cons, List.length_append, List.length_nil,
      Bool.toNat_false] at enough ⊢
    omega

theorem Serves.look (h : t.Serves most) {i : Waiter} (looks : i ∈ t.looking)
    (step : t.step (.look i) = some t') : t'.Serves most := by
  have enough := h.enough
  have one := List.length_pos_of_mem looks
  unfold underway at enough
  simp only [Traffic.step, if_pos looks, take?] at step
  cases queued : t.queue.envelopes with
  | nil =>
    rw [queued] at step
    cases step
    exact ⟨h.unparked, .inr (by simp [queued])⟩
  | cons e rest =>
    rw [queued] at step
    cases step
    refine ⟨h.unparked, ?_⟩
    simp only [underway, queued, List.length_cons, List.length_erase_of_mem looks] at enough ⊢
    omega

theorem Serves.await (h : t.Serves most) {i : Waiter} (waits : i ∈ t.between)
    (step : t.step (.await i) = some t') : t'.Serves most := by
  have enough := h.enough
  have one := List.length_pos_of_mem waits
  unfold underway at enough
  simp only [Traffic.step, if_pos waits, Queue.await] at step
  cases permit : t.queue.permit with
  | true =>
    rw [permit, if_pos rfl] at step
    cases step
    refine ⟨fun again => absurd again Bool.false_ne_true, ?_⟩
    simp only [underway, permit, List.length_append, List.length_cons, List.length_nil,
      List.length_erase_of_mem waits, Bool.toNat_true, Bool.toNat_false] at enough ⊢
    omega
  | false =>
    rw [permit, if_neg (by simp)] at step
    cases step
    refine ⟨fun again => absurd again Bool.false_ne_true, ?_⟩
    simp only [underway, permit, List.length_append, List.length_cons, List.length_nil,
      List.length_erase_of_mem waits, Bool.toNat_false] at enough ⊢
    omega

/-- One move passes nobody over unless too many are in between. -/
theorem Serves.step (h : t.Serves most) (narrow : t.between.length ≤ most + 1)
    (step : t.step m = some t') : t'.Serves most := by
  cases m with
  | append sender parcel =>
    cases step
    refine ⟨h.unparked, ?_⟩
    have enough := h.enough
    simp only [underway, Queue.append, List.length_append, List.length_singleton] at enough ⊢
    omega
  | ring =>
    simp only [Traffic.step] at step
    split at step
    · next some =>
      cases step
      exact h.ring narrow some
    · cases step
  | enter i =>
    simp only [Traffic.step] at step
    split at step
    · cases step
    · cases step
      refine ⟨h.unparked, ?_⟩
      have enough := h.enough
      simp only [underway, List.length_append, List.length_singleton] at enough ⊢
      omega
  | look i =>
    by_cases looks : i ∈ t.looking
    · exact h.look looks step
    · simp [Traffic.step, looks] at step
  | await i =>
    by_cases waits : i ∈ t.between
    · exact h.await waits step
    · simp [Traffic.step, waits] at step
  | resume i =>
    simp only [Traffic.step] at step
    split at step
    · next called =>
      cases step
      refine ⟨h.unparked, ?_⟩
      have one := List.length_pos_of_mem called
      have enough := h.enough
      simp only [underway, answer, List.length_append, List.length_singleton,
        List.length_erase_of_mem called] at enough ⊢
      omega
    · cases step

theorem Serves.run (h : t.Serves most) (narrow : t.widest ms ≤ most + 1)
    (ran : t.run ms = some t') : t'.Serves most := by
  induction ms generalizing t with
  | nil =>
    cases ran
    exact h
  | cons m ms ih =>
    cases step : t.step m with
    | none => simp [Traffic.run, step] at ran
    | some next =>
      simp only [Traffic.run, step] at ran
      simp only [widest, step, Nat.max_le] at narrow
      exact ih (h.step narrow.1 step) narrow.2 ran

/-- **What crossing calls can lose.** However the calls cross, no more receives are parked beside
messages that nobody is called for than were between their look and their wait at once, less one.
Where never two were, none is: no call is lost. -/
theorem passed_over (ran : ({} : Traffic).run ms = some t) :
    (t.queue.parked.length ≤ ({} : Traffic).widest ms - 1 ∨
      t.queue.envelopes.length ≤ t.underway + (({} : Traffic).widest ms - 1)) ∧
    (({} : Traffic).widest ms ≤ 1 → ¬ t.IsForsaken) := by
  have serves := Serves.empty.run (Nat.le_add_of_sub_le (Nat.le_refl _)) ran
  have passed : t.queue.parked.length ≤ ({} : Traffic).widest ms - 1 ∨
      t.queue.envelopes.length ≤ t.underway + (({} : Traffic).widest ms - 1) := by
    have enough := serves.enough
    cases permit : t.queue.permit with
    | true =>
      rw [serves.unparked permit]
      exact .inl (Nat.zero_le _)
    | false =>
      rw [permit, Bool.toNat_false] at enough
      omega
  refine ⟨passed, fun narrow forsaken => ?_⟩
  have parked := List.length_pos_iff.mpr forsaken.parked
  have left := List.length_pos_iff.mpr forsaken.left
  have idle : t.underway = 0 := by
    rw [underway, forsaken.sent, forsaken.called, forsaken.looking]
    rfl
  omega

/-- A send: its message is appended, and then the bell is rung. -/
def sending : List Move :=
  [.append ⟨none, none, "Alice", "Oslo", none, "NO"⟩ (.pack ⟨.text, "hello"⟩), .ring]

/-- The bell rings for a receive that is between its look and its wait. -/
theorem passed_over_permit : ∃ t, ({} : Traffic).run
      ([.enter 1, .look 1] ++ sending ++ [.await 1, .enter 2]) = some t ∧
    t.queue.envelopes.length = 1 ∧ t.looking = [1, 2] ∧ ¬ t.IsForsaken := by
  have ran : ({} : Traffic).run ([.enter 1, .look 1] ++ sending ++ [.await 1, .enter 2]) =
      some _ := rfl
  exact ⟨_, ran, rfl, rfl, (passed_over ran).2 (by decide)⟩

/-- Two receives see an empty queue, two messages are sent, and only then the receives wait. The
first has the permit, looks again and is over; nobody calls the second for the other message. -/
theorem forsaken_crossing : ∃ t, ({} : Traffic).run
      ([.enter 1, .enter 2, .look 1, .look 2] ++ sending ++ sending ++
        [.await 1, .await 2, .look 1]) = some t ∧ t.IsForsaken ∧
    t.queue.parked = [2] ∧ t.queue.envelopes.map (·.sequence) = [1] :=
  ⟨_, rfl, ⟨rfl, rfl, rfl, rfl, by simp, by simp⟩, rfl, rfl⟩

/-! ## Calls that nothing interrupts -/

/-- A send that nothing interrupts. -/
theorem run_send (t : Traffic) (sender : Member) (parcel : Parcel) :
    t.run [.append sender parcel, .ring] =
      some { t with queue := (t.queue.append sender parcel).ring.2 } := by
  simp [run, step]

/-- A receive that nothing interrupts, from a look until it is over or parked. -/
theorem run_poll {i : Waiter} (new : i ∉ t.looking) (nobody : t.between = []) : ∃ ms,
    ({ t with looking := t.looking ++ [i] } : Traffic).run ms =
      some { t with queue := (t.queue.poll i).2 } ∧
    ({ t with looking := t.looking ++ [i] } : Traffic).widest ms ≤ 1 := by
  have erased : (t.looking ++ [i]).erase i = t.looking := by
    rw [List.erase_append_right _ new]
    simp
  obtain ⟨⟨envelopes, next, permit, parked, called⟩, ringing, looking, between⟩ := t
  cases nobody
  cases envelopes with
  | cons e rest =>
    refine ⟨[.look i], ?_, ?_⟩
    · simp [run, step, poll, take?, erased]
    · simp [widest, step, take?]
  | nil =>
    cases permit with
    | false =>
      refine ⟨[.look i, .await i], ?_, ?_⟩
      · simp [run, step, poll, take?, Queue.await, erased]
      · simp [widest, step, take?, Queue.await]
    | true =>
      refine ⟨[.look i, .await i, .look i, .await i], ?_, ?_⟩
      · simp [run, step, poll, take?, Queue.await, erased]
      · simp [widest, step, take?, Queue.await]

/-! ## How much crossing calls can lose -/

variable {t'' : Traffic}

/-- Some moves lead from one traffic to the other. -/
def Reaches (t t' : Traffic) : Prop := ∃ ms, t.run ms = some t'

namespace Reaches

theorem refl (t : Traffic) : t.Reaches t := ⟨[], rfl⟩

theorem next (step : t.step m = some t') (others : t'.Reaches t'') : t.Reaches t'' := by
  obtain ⟨ms, ran⟩ := others
  exact ⟨m :: ms, by rw [Traffic.run, step]; exact ran⟩

theorem trans (before : t.Reaches t') (after : t'.Reaches t'') : t.Reaches t'' := by
  obtain ⟨ms, ran⟩ := before
  induction ms generalizing t with
  | nil =>
    cases ran
    exact after
  | cons m ms ih =>
    rw [Traffic.run] at ran
    split at ran
    · next step => exact .next step (ih ran)
    · cases ran

end Reaches

/-- Any number of receives see the empty queue before anything is sent. -/
theorem reaches_between (k : Nat) : ({} : Traffic).Reaches { between := List.range k } := by
  induction k with
  | zero => exact .refl _
  | succ k ih =>
    have entered : ({ between := List.range k } : Traffic).step (.enter k) =
        some { looking := [k], between := List.range k } := by simp [step]
    have looked : ({ looking := [k], between := List.range k } : Traffic).step (.look k) =
        some { between := List.range (k + 1) } := by simp [step, take?, List.range_succ]
    exact ih.trans (.next entered (.next looked (.refl _)))

/-- However often the bell rings while nobody is parked, there is one permit. -/
theorem reaches_sent (t : Traffic) (nobody : t.queue.parked = []) (k : Nat) : ∃ q : Queue,
    t.Reaches { t with queue := q } ∧ q.parked = [] ∧ q.called = t.queue.called ∧
      q.envelopes.length = t.queue.envelopes.length + k ∧ (0 < k → q.permit = true) := by
  induction k with
  | zero => exact ⟨t.queue, .refl t, nobody, rfl, rfl, fun none => absurd none (Nat.lt_irrefl 0)⟩
  | succ k ih =>
    obtain ⟨q, reaches, parked, called, length, -⟩ := ih
    have sent := run_send { t with queue := q } ⟨none, none, "Alice", "Oslo", none, "NO"⟩
      (.pack ⟨.text, "hello"⟩)
    refine ⟨_, reaches.trans ⟨_, sent⟩, ?_⟩
    have kept : ∀ sender parcel, (q.append sender parcel).ring.2 =
        { q.append sender parcel with permit := true } := by
      intro sender parcel
      simp [Queue.ring, Queue.append, parked]
    rw [kept]
    simp [Queue.append, parked, called, length, Nat.add_assoc]

/-- Without a permit all receives in between are parked. -/
theorem reaches_parked (t : Traffic) (none : t.queue.permit = false) : t.Reaches
    { t with queue := { t.queue with parked := t.queue.parked ++ t.between }, between := [] } := by
  obtain ⟨⟨envelopes, next, permit, parked, called⟩, ringing, looking, between⟩ := t
  cases none
  induction between generalizing parked with
  | nil => simpa using Reaches.refl _
  | cons i between ih =>
    have parks : Traffic.step ⟨⟨envelopes, next, false, parked, called⟩, ringing, looking,
          i :: between⟩ (.await i) =
        some ⟨⟨envelopes, next, false, parked ++ [i], called⟩, ringing, looking, between⟩ := by
      simp [step, Queue.await]
    have others := ih (parked ++ [i])
    rw [List.append_assoc] at others
    exact .next parks others

/-- **Any number of receives** can be passed over, each beside a message. -/
theorem reaches_forsaken (n : Nat) : ∃ t, ({} : Traffic).Reaches t ∧ t.underway = 0 ∧
    t.between = [] ∧ t.queue.parked.length = n ∧ t.queue.envelopes.length = n := by
  obtain ⟨⟨envelopes, next, permit, parked, called⟩, sent, none, nobody, length, one⟩ :=
    reaches_sent { between := List.range (n + 1) } rfl (n + 1)
  cases none
  cases nobody
  cases one (Nat.succ_pos n)
  obtain ⟨others, ids, count⟩ : ∃ others, List.range (n + 1) = 0 :: others ∧ others.length = n :=
    ⟨_, List.range_succ_eq_map, by simp⟩
  -- The first receive has the permit, and all others are parked.
  have first : Traffic.step ⟨⟨envelopes, next, true, [], []⟩, 0, [], List.range (n + 1)⟩
      (.await 0) = some ⟨⟨envelopes, next, false, [], []⟩, 0, [0], others⟩ := by
    simp [step, Queue.await, ids]
  have parks := reaches_parked ⟨⟨envelopes, next, false, [], []⟩, 0, [0], others⟩ rfl
  cases envelopes with
  | nil => simp at length
  | cons e envelopes =>
    have takes : Traffic.step ⟨⟨e :: envelopes, next, false, others, []⟩, 0, [0], []⟩ (.look 0) =
        some ⟨⟨envelopes, next, false, others, []⟩, 0, [], []⟩ := by simp [step, take?]
    refine ⟨_, ((reaches_between (n + 1)).trans sent).trans
      (.next first (parks.trans (.next takes (.refl _)))), rfl, rfl, count, ?_⟩
    simpa using length

end Traffic

end Queue

end Rehearsal
