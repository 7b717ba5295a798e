import Rehearsal.Proofs.Drive.Verdicts

/-!
# When a run returns

The moments of a run are counted from its start. Its deadline is the timeout until the driver sees a
failure; the first failure that it sees brings the deadline nearer once and for all, and a run is
over as the last participant settles, or else at the deadline. A bound that reaches beyond what the
clock can count is replaced by thirty years from the moment at which it is needed, and where the
clock cannot count even these, the driver panics.
-/

namespace Rehearsal

variable {config : Config} {participants : List Participant} {stage : Stage}
  {marks : List Mark} {w w' : Watch} {r r' : Run}

/-! ## The order of settlements -/

/-- The settlements came one after the other. -/
def InOrder (settled : List Settlement) : Prop :=
  settled.Pairwise fun s t => s.tick ≤ t.tick

theorem InOrder.append {settled : List Settlement} {s : Settlement} (order : InOrder settled)
    (past : ∀ t ∈ settled, t.tick ≤ s.tick) : InOrder (settled ++ [s]) :=
  List.pairwise_append.mpr ⟨order, List.pairwise_singleton _ _, fun t ht u hu => by
    rw [List.mem_singleton.mp hu]
    exact past t ht⟩

theorem settlements_settles (i : Nat) (r : Run) : settlements (r.settles i) = [] ∨
    ∃ result, settlements (r.settles i) = [⟨i, r.now, result⟩] := by
  unfold Run.settles
  split
  · next result _ => exact .inr ⟨result, rfl⟩
  · exact .inl rfl

/-- What is known of the moments of a driven run that goes on. -/
structure Timed (participants : List Participant) (marks : List Mark) (w : Watch) (r : Run) :
    Prop where
  order : InOrder (settlements marks)
  past : ∀ s ∈ settlements marks, s.tick ≤ r.now
  /-- When the driver last looked, somebody had not settled. -/
  someLeft : w.settled.length < participants.length

/-- A settlement is of the moment of the turn that it came with. -/
theorem Timed.turn (timed : Timed participants marks w r) {i : Nat} {now : Tick}
    (same : now = r.now) (run : Run) (moved : run.now = now) :
    Timed participants (marks ++ r.settles i) w run := by
  rcases settlements_settles i r with none | ⟨result, one⟩
  · refine ⟨?_, ?_, timed.someLeft⟩
    · rw [settlements_append, none, List.append_nil]
      exact timed.order
    · rw [settlements_append, none, List.append_nil, moved, same]
      exact timed.past
  · refine ⟨?_, ?_, timed.someLeft⟩
    · rw [settlements_append, one]
      exact timed.order.append timed.past
    · rw [settlements_append, one, moved, same]
      intro s hs
      rcases List.mem_append.mp hs with hs | hs
      · exact timed.past s hs
      · rw [List.mem_singleton.mp hs]

/-! ## Bounds that the clock can count -/

theorem Tick.milliseconds_thirtyYears : Duration.thirtyYears.milliseconds = farFuture := by
  decide +kernel

section
variable [Clock]

namespace Tick

/-- The bound that counts from a moment on. -/
def counted (now : Tick) (bound : Duration) : Duration :=
  if reaches now bound then bound else .thirtyYears

theorem after_eq (now : Tick) (bound : Duration) :
    now.after bound = now + (now.counted bound).milliseconds := by
  unfold after counted
  by_cases fits : reaches now bound
  · rw [if_pos fits, if_pos fits]
  · rw [if_neg fits, if_neg fits, milliseconds_thirtyYears]

/-- What can be counted from a later moment can be counted from an earlier one. -/
theorem reaches_of_le {now later : Tick} {bound : Duration} (le : now ≤ later)
    (fits : later.reaches bound) : now.reaches bound := by
  simp only [reaches, decide_eq_true_eq] at fits ⊢
  exact Nat.lt_of_le_of_lt (Nat.add_le_add_right (Nat.mul_le_mul_right _ le) _) fits

/-- There is a deadline where the clock can count thirty years more, for every bound. -/
theorem after?_of_reaches {now : Tick} (bound : Duration) (room : now.reaches .thirtyYears) :
    now.after? bound = some (now + (now.counted bound).milliseconds) := by
  unfold after? checkedAdd counted
  simp only [room, if_true, Option.bind_eq_bind, Option.bind_some, Option.pure_def]
  split
  · rw [Option.getD_some]
  · rw [Option.getD_none]

theorem isNone_after? (now : Tick) (bound : Duration) :
    (now.after? bound).isNone ↔ ¬ now.reaches .thirtyYears := by
  by_cases room : now.reaches .thirtyYears
  · simp [after?_of_reaches bound room, room]
  · simp [after?, checkedAdd, room]

/-- A bound that starts later ends later, if it does not cease to be counted. -/
theorem after_le_after {now later : Tick} {bound : Duration} (le : now ≤ later)
    (steady : now.reaches bound → later.reaches bound) : now.after bound ≤ later.after bound := by
  unfold after
  by_cases fits : now.reaches bound
  · rw [if_pos fits, if_pos (steady fits)]
    exact Nat.add_le_add_right le _
  · rw [if_neg fits, if_neg fun fits' => fits (reaches_of_le le fits')]
    exact Nat.add_le_add_right le _

end Tick

/-! ## The deadline in force -/

/-- A deadline that is right for these settlements. -/
structure Governed (config : Config) (settled : List Settlement) (deadline : Tick) : Prop where
  /-- Before any failure it is the timeout. -/
  calm : (∀ s ∈ settled, s.result = .ok ()) →
    deadline = (Tick.counted 0 config.timeout).milliseconds
  /-- The first failure leaves the grace from its own moment on, and no later one counts. -/
  first : ∀ before s after failure, settled = before ++ s :: after →
    (∀ b ∈ before, b.result = .ok ()) → s.result = .error failure →
    (s.tick.reaches config.failureGrace →
      ∀ t ∈ after, t.result ≠ .ok () → t.tick.reaches config.failureGrace) →
    deadline = min (Tick.counted 0 config.timeout).milliseconds
      (s.tick + (s.tick.counted config.failureGrace).milliseconds)
  /-- Where the clock can count the grace from the first failure on and not from some later one,
  the first such later failure leaves thirty years, and no other counts. -/
  setback : ∀ before s between t after failure, settled = before ++ s :: (between ++ t :: after) →
    (∀ b ∈ before, b.result = .ok ()) → s.result = .error failure →
    s.tick.reaches config.failureGrace →
    (∀ u ∈ between, u.result ≠ .ok () → u.tick.reaches config.failureGrace) →
    t.result ≠ .ok () → ¬ t.tick.reaches config.failureGrace →
    deadline = min (min (Tick.counted 0 config.timeout).milliseconds
      (s.tick + config.failureGrace.milliseconds)) (t.tick + Tick.farFuture)

theorem deadlineAfter_append (config : Config) (settled : List Settlement) (s : Settlement) :
    deadlineAfter config (settled ++ [s]) = match s.result with
      | .ok () => deadlineAfter config settled
      | .error _ => min (deadlineAfter config settled) (s.tick.after config.failureGrace) := by
  rw [deadlineAfter, List.foldl_append]
  rfl

/-- Settlements after which every failure would allow at least as much do not move a deadline. -/
theorem deadlineAfter_append_of_le (settled after : List Settlement)
    (later : ∀ t ∈ after, t.result ≠ .ok () →
      deadlineAfter config settled ≤ t.tick.after config.failureGrace) :
    deadlineAfter config (settled ++ after) = deadlineAfter config settled := by
  induction after generalizing settled with
  | nil => rw [List.append_nil]
  | cons t after ih =>
    have here : deadlineAfter config (settled ++ [t]) = deadlineAfter config settled := by
      rw [deadlineAfter_append]
      cases hr : t.result with
      | ok => rfl
      | error failure => exact Nat.min_eq_left (later t (List.mem_cons_self ..) (by simp [hr]))
    rw [List.append_cons, ih _ fun u hu bad => by
      rw [here]
      exact later u (List.mem_cons_of_mem _ hu) bad, here]

/-- A failure brings the deadline to the grace from its own moment on, if that is nearer, and later
ones leave it there as long as the grace does not cease to be counted. -/
theorem deadlineAfter_of_failure (config : Config) {before after : List Settlement}
    {s : Settlement} (order : InOrder (before ++ s :: after)) (bad : s.result ≠ .ok ())
    (steady : s.tick.reaches config.failureGrace →
      ∀ t ∈ after, t.result ≠ .ok () → t.tick.reaches config.failureGrace) :
    deadlineAfter config (before ++ s :: after) =
      min (deadlineAfter config before) (s.tick.after config.failureGrace) := by
  have nearer : deadlineAfter config (before ++ [s]) =
      min (deadlineAfter config before) (s.tick.after config.failureGrace) := by
    rw [deadlineAfter_append]
    cases hr : s.result with
    | ok => exact absurd hr bad
    | error failure => rfl
  rw [List.append_cons, deadlineAfter_append_of_le, nearer]
  -- A later failure leaves the grace from a later moment on.
  intro t ht fails
  have later : s.tick ≤ t.tick :=
    List.rel_of_pairwise_cons (List.pairwise_append.mp order).2.1 ht
  rw [nearer]
  exact Nat.le_trans (Nat.min_le_right _ _)
    (Tick.after_le_after later fun fits => steady fits t ht fails)

/-- **The first failure decides.** -/
theorem governed_deadlineAfter (config : Config) {settled : List Settlement}
    (order : InOrder settled) : Governed config settled (deadlineAfter config settled) := by
  refine ⟨fun well => ?_, fun before s after failure split well bad steady => ?_,
    fun before s between t after failure split well bad fits between_fit fails short => ?_⟩
  · rw [deadlineAfter_of_no_failure well, Tick.after_eq, Nat.zero_add]
  · subst split
    rw [deadlineAfter_of_failure config order (by simp [bad]) steady,
      deadlineAfter_of_no_failure well, Tick.after_eq, Tick.after_eq, Nat.zero_add]
  · rw [← List.cons_append, ← List.append_assoc] at split
    subst split
    -- From the later failure on the grace is never counted again, and up to it always.
    have first := deadlineAfter_of_failure config (List.pairwise_append.mp order).1
      (by simp [bad]) fun _ => between_fit
    rw [deadlineAfter_of_failure config order fails fun fits' => absurd fits' short, first,
      deadlineAfter_of_no_failure well, Tick.after_eq, Nat.zero_add, Tick.after, if_pos fits,
      Tick.after, if_neg short]

theorem deadlineAfter_le_append (config : Config) (settled after : List Settlement) :
    deadlineAfter config (settled ++ after) ≤ deadlineAfter config settled := by
  induction after generalizing settled with
  | nil => rw [List.append_nil]
  | cons t after ih =>
    rw [List.append_cons]
    refine Nat.le_trans (ih _) ?_
    rw [deadlineAfter_append]
    split
    · exact Nat.le_refl _
    · exact Nat.min_le_left _ _

/-- No deadline is later than the timeout. -/
theorem deadlineAfter_le_timeout (config : Config) (settled : List Settlement) :
    deadlineAfter config settled ≤ Tick.after 0 config.timeout :=
  deadlineAfter_le_append config [] settled

/-- No deadline is later than the grace after a failure. -/
theorem deadlineAfter_le_grace {settled : List Settlement} {s : Settlement} (hs : s ∈ settled)
    (fails : s.result ≠ .ok ()) :
    deadlineAfter config settled ≤ s.tick.after config.failureGrace := by
  obtain ⟨before, after, rfl⟩ := List.append_of_mem hs
  rw [List.append_cons]
  refine Nat.le_trans (deadlineAfter_le_append config (before ++ [s]) after) ?_
  rw [deadlineAfter_append]
  cases hr : s.result with
  | ok => exact absurd hr fails
  | error failure => exact Nat.min_le_right _ _

/-! ## Deadlines that the clock cannot count -/

theorem overflowsAfter_append (config : Config) (settled : List Settlement) (s : Settlement) :
    overflowsAfter config (settled ++ [s]) = match s.result with
      | .ok () => overflowsAfter config settled
      | .error _ =>
        overflowsAfter config settled || (s.tick.after? config.failureGrace).isNone := by
  rw [overflowsAfter, List.foldl_append]
  rfl

/-- A deadline cannot be counted exactly if thirty years cannot, at the start or as a participant
failed. The bounds themselves do not count. -/
theorem overflowsAfter_iff (config : Config) (settled : List Settlement) :
    overflowsAfter config settled ↔ ¬ Tick.reaches 0 .thirtyYears ∨
      ∃ s ∈ settled, s.result ≠ .ok () ∧ ¬ s.tick.reaches .thirtyYears := by
  induction settled using List.reverseRecOn with
  | nil => simpa [overflowsAfter] using Tick.isNone_after? 0 config.timeout
  | append_singleton settled s ih =>
    rw [overflowsAfter_append]
    cases hr : s.result with
    | ok => simp [ih, hr, or_and_right, exists_or]
    | error failure =>
      dsimp only
      rw [Bool.or_eq_true, ih, Tick.isNone_after?]
      simp [hr, or_and_right, exists_or, or_assoc]

/-! ## The moments of a run -/

/-- Every driven run that goes on has its moments in order. -/
theorem Underway.timed (under : Underway config participants stage marks w r)
    (h : stage.Reached) (some_part : 0 < participants.length) :
    Timed participants marks w r := by
  induction under with
  | opened => exact ⟨List.Pairwise.nil, by simp, some_part⟩
  | turn under ready ih =>
    obtain ⟨t, t', stage', took⟩ := (under.reached h).sound.took ready
    exact ih.turn rfl _ took.now
  | look under looked some_left _ ih =>
    obtain ⟨tasks, now, -, -⟩ := Run.of_looked looked
    rw [tasks, (under.ledger h).tasks] at some_left
    exact ⟨ih.order, now.symm ▸ ih.past, some_left⟩
  | @sleep marks w r due under idle _ next _ ih =>
    obtain ⟨⟨t, ht, hd⟩, -⟩ := Run.nextDue_spec next
    have later := (under.reached h).sound.lt_of_due idle ht hd
    have same := settlements_woke marks due
    refine ⟨same ▸ ih.order, fun s hs => ?_, ih.someLeft⟩
    rw [same] at hs
    exact Nat.le_trans (ih.past s hs) (Nat.le_of_lt later)

/-! ## When a run is over -/

/-- As many settlements as participants, the last of them at this moment. -/
theorem Timed.last_now (timed : Timed participants marks w r)
    (ledger : Ledger config participants marks w r)
    (all : participants.length ≤ (settlements marks).length) :
    ∃ before last, settlements marks = before ++ [last] ∧ last.tick = r.now := by
  obtain ⟨seen, unseen, split, watch, -, here⟩ := ledger.seen
  rcases List.eq_nil_or_concat unseen with none | ⟨unseen', last, rfl⟩
  · -- The driver saw no new settlement, but not everybody had settled before.
    have left := timed.someLeft
    rw [none, List.append_nil] at split
    simp only [watch, watchOf, List.length_map, ← split] at left
    exact absurd left (Nat.not_lt.mpr all)
  · refine ⟨seen ++ unseen', last, ?_, here last (by simp)⟩
    rw [split, List.concat_eq_append, List.append_assoc]

/-- What is known of the moment at which a run returns. -/
structure Returned (config : Config) (participants : List Participant) (settled : List Settlement)
    (deadline : Tick) (overflowed : Bool) (now : Tick) : Prop where
  governed : Governed config settled deadline
  order : InOrder settled
  past : ∀ s ∈ settled, s.tick ≤ now
  early : now ≤ deadline
  /-- Once everybody has settled, it is the moment of the last settlement. -/
  all : unsettled participants settled = [] →
    ∃ before last, settled = before ++ [last] ∧ now = last.tick
  /-- Otherwise it is the deadline. -/
  late : unsettled participants settled ≠ [] → now = deadline
  timeout : now ≤ (Tick.counted 0 config.timeout).milliseconds
  grace : ∀ s ∈ settled, s.result ≠ .ok () →
    now ≤ s.tick + (s.tick.counted config.failureGrace).milliseconds
  /-- A sum overflows exactly if thirty years cannot be counted, from the start or a failure on. -/
  overflows : overflowed ↔ ¬ Tick.reaches 0 .thirtyYears ∨
    ∃ s ∈ settled, s.result ≠ .ok () ∧ ¬ s.tick.reaches .thirtyYears
  /-- None does if they can be counted from the end of the run on. -/
  room : now.reaches .thirtyYears → overflowed = false
  /-- Where none does, the driver has the deadline of the timeout and of the grace after each
  failure. -/
  sums : overflowed = false →
    Tick.after? 0 config.timeout = some (Tick.counted 0 config.timeout).milliseconds ∧
    ∀ s ∈ settled, s.result ≠ .ok () → s.tick.after? config.failureGrace =
      some (s.tick + (s.tick.counted config.failureGrace).milliseconds)

theorem Closed.returned (closed : Closed config participants marks w r)
    (order : InOrder (settlements marks)) (past : ∀ s ∈ settlements marks, s.tick ≤ r.now)
    (early : r.now ≤ deadlineAfter config (settlements marks))
    (last : participants.length ≤ (settlements marks).length →
      ∃ before last, settlements marks = before ++ [last] ∧ last.tick = r.now) :
    Returned config participants (settlements marks) w.deadline w.overflowed r.now := by
  have deadline : w.deadline = deadlineAfter config (settlements marks) := by
    rw [closed.watch, watchOf]
  have timeout := Nat.le_trans early (deadlineAfter_le_timeout config _)
  have overflows := overflowsAfter_iff config (settlements marks)
  rw [show overflowsAfter config (settlements marks) = w.overflowed by rw [closed.watch, watchOf]]
    at overflows
  rw [deadline]
  refine ⟨governed_deadlineAfter config order, order, past, early, fun all => ?_, fun left => ?_,
    ?_, fun s hs fails => ?_, overflows, fun room => ?_, fun sound => ?_⟩
  · rw [unsettled_eq_nil_iff] at all
    have many : participants.length ≤ (settlements marks).length := by
      -- Every number of a participant is among those that settled.
      have subset : List.range participants.length ⊆ (settlements marks).map Settlement.index :=
        fun i hi => all i (List.mem_range.mp hi)
      simpa using (List.nodup_range.subperm subset).length_le
    obtain ⟨before, s, split, now⟩ := last many
    exact ⟨before, s, split, now.symm⟩
  · exact closed.atEnd.resolve_left fun many =>
      left ((unsettled_eq_nil_iff _ _).mpr (closed.all_settled many))
  · rwa [Tick.after_eq, Nat.zero_add] at timeout
  · rw [← Tick.after_eq]
    exact Nat.le_trans early (deadlineAfter_le_grace hs fails)
  · refine Bool.eq_false_iff.mpr fun overflowed => ?_
    -- All failures are past, so from each of them on the clock can count as much.
    rcases overflows.mp overflowed with start | ⟨s, hs, -, short⟩
    · exact start (Tick.reaches_of_le (Nat.zero_le _) room)
    · exact short (Tick.reaches_of_le (past s hs) room)
  · have reaches := Bool.eq_false_iff.mp sound
    rw [ne_eq, overflows, not_or, not_not] at reaches
    refine ⟨?_, fun s hs fails => Tick.after?_of_reaches _ ?_⟩
    · rw [Tick.after?_of_reaches _ reaches.1, Nat.zero_add]
    · by_contra short
      exact reaches.2 ⟨s, hs, fails, short⟩

/-- Every driven run that is over returned at the right moment. -/
theorem Over.returned (atEnd : Over config participants stage marks w r) (h : stage.Reached)
    (some_part : 0 < participants.length) :
    Returned config participants (settlements marks) w.deadline w.overflowed r.now := by
  have closed := atEnd.closed h
  cases atEnd with
  | unopened =>
    exact closed.returned .nil (by simp) (Nat.zero_le _) fun many =>
      absurd some_part (Nat.not_lt.mpr (by simpa using many))
  | looked under looked _ =>
    have timed := under.timed h some_part
    have ledger := under.ledger h
    obtain ⟨-, now, -, -⟩ := Run.of_looked looked
    obtain ⟨-, watch⟩ := ledger.look looked
    refine closed.returned timed.order (now.symm ▸ timed.past) (now.symm ▸ ledger.le_deadline)
      fun many => ?_
    rw [now]
    exact timed.last_now ledger many
  | @late marks w r under idle seen none_due =>
    have timed := under.timed h some_part
    have ledger := under.ledger h
    have deadline : w.deadline = deadlineAfter config (settlements marks) := by
      rw [closed.watch, watchOf]
    refine closed.returned timed.order
      (fun s hs => Nat.le_trans (timed.past s hs) ledger.early) (Nat.le_of_eq deadline)
      fun many => ?_
    -- Everybody has settled before the driver looked, and then the run would have been over.
    have left := timed.someLeft
    simp only [closed.watch, watchOf, List.length_map] at left
    exact absurd left (Nat.not_lt.mpr many)

/-! ## The deadline of a run that goes on -/

/-- What a driver that looks once more finds in force, if it has seen a failure before. -/
theorem Governed.eq_of_failure {seen unseen : List Settlement} {deadline deadline' : Tick}
    (before : Governed config seen deadline) (after : Governed config (seen ++ unseen) deadline')
    (failed : ∃ s ∈ seen, s.result ≠ .ok ())
    (steady : ∀ s ∈ seen, s.result ≠ .ok () → s.tick.reaches config.failureGrace →
      ∀ t ∈ seen ++ unseen, t.result ≠ .ok () → t.tick.reaches config.failureGrace) :
    deadline' = deadline := by
  rcases well_or_first_failure seen with well | ⟨earlier, s, later, failure, rfl, well, bad⟩
  · obtain ⟨s, hs, fails⟩ := failed
    exact absurd (well s hs) fails
  · have steady := steady s (by simp) (by simp [bad])
    have now := before.first earlier s later failure rfl well bad fun fits t ht fails =>
      steady fits t (by simp [ht]) fails
    have next := after.first earlier s (later ++ unseen) failure (by simp) well bad
      fun fits t ht fails =>
        steady fits t (by simpa using .inr (.inr (List.mem_append.mp ht))) fails
    rw [now, next]

/-- What is known of the deadline of a run that goes on, whose driver has seen a first part of the
settlements: it is ahead, and once the driver has seen a failure it stays where it is, unless the
clock ceases to count the grace. -/
structure InForce (config : Config) (participants : List Participant) (marks : List Mark)
    (w : Watch) (r : Run) : Prop where
  ahead : r.now ≤ w.deadline
  seen : ∃ seen unseen, settlements marks = seen ++ unseen ∧
    w = watchOf config (participants.map (·.name)) seen ∧ (∀ s ∈ unseen, s.tick = r.now) ∧
    Governed config seen w.deadline
  fixed : w.failures ≠ [] → (∀ s ∈ settlements marks, s.result ≠ .ok () →
      s.tick.reaches config.failureGrace →
      ∀ t ∈ settlements marks, t.result ≠ .ok () → t.tick.reaches config.failureGrace) →
    ∀ w' r', r.observeAll config (participants.map (·.name)) w = (w', r') →
      w'.deadline = w.deadline

theorem failed_of_failures {names : List String} {settled : List Settlement}
    (failures : (watchOf config names settled).failures ≠ []) :
    ∃ s ∈ settled, s.result ≠ .ok () := by
  obtain ⟨e, he⟩ := List.exists_mem_of_ne_nil _ failures
  obtain ⟨s, hs, kept⟩ := List.mem_filterMap.mp he
  refine ⟨s, hs, fun well => ?_⟩
  rw [Settlement.failure?, well] at kept
  cases kept

theorem Underway.inForce (under : Underway config participants stage marks w r)
    (h : stage.Reached) (some_part : 0 < participants.length) :
    InForce config participants marks w r := by
  have ledger := under.ledger h
  have timed := under.timed h some_part
  obtain ⟨seen, unseen, split, watch, -, here⟩ := ledger.seen
  have order : InOrder seen := (List.pairwise_append.mp (split ▸ timed.order)).1
  have governed : Governed config seen w.deadline := by
    rw [watch]
    exact governed_deadlineAfter config order
  refine ⟨ledger.early, ⟨seen, unseen, split, watch, here, governed⟩,
    fun failures steady w' r' looked => ?_⟩
  obtain ⟨-, watch'⟩ := ledger.look looked
  have later : Governed config (seen ++ unseen) w'.deadline := by
    rw [watch', ← split]
    exact governed_deadlineAfter config timed.order
  rw [watch] at failures
  rw [split] at steady
  exact governed.eq_of_failure later (failed_of_failures failures) fun s hs =>
    steady s (List.mem_append_left _ hs)

/-- **The time bound of a driven run.** While a run goes on, its deadline is the timeout until the
driver has seen a failure; then it is the earlier one of the timeout and the grace after the first
failure, and nothing moves it any more, unless the clock can count the grace from the first failure
on and not from a later one, which then leaves thirty years at most. The run returns as the last
participant settles, or else at the deadline. A bound that the clock cannot count is replaced by
thirty years, and the sums overflow exactly where it cannot count these. -/
theorem Stage.Reached.drive_returns (h : stage.Reached) (config : Config)
    {participants : List Participant} (enough : 2 ≤ participants.length) :
    (∀ marks w r, Underway config participants stage marks w r →
      InForce config participants marks w r) ∧
    (∀ marks w r, Over config participants stage marks w r →
      Returned config participants (settlements marks) w.deadline
        (concluded config participants w r).1.overflowed
        (concluded config participants w r).1.elapsed) ∧
    ∃ marks w r, Over config participants stage marks w r ∧
      drive config participants stage = concluded config participants w r := by
  have some_part : 0 < participants.length := Nat.lt_of_lt_of_le Nat.zero_lt_two enough
  refine ⟨fun marks w r under => under.inForce h some_part,
    fun marks w r atEnd => atEnd.returned h some_part, ?_⟩
  obtain ⟨marks, w, r, atEnd, -, same⟩ := drive_possible h config enough
  exact ⟨marks, w, r, atEnd, same⟩

end

attribute [local instance] Clock.usual

/-- One fails after twenty milliseconds, another after sixty, and the third waits in vain. -/
def Participant.mishap : List Participant :=
  [⟨"alice", [⟨.sleep 20, false⟩, ⟨.fail (.flowFailed "no"), false⟩]⟩,
    ⟨"carol", [⟨.sleep 60, false⟩, ⟨.panic (.str "worse"), false⟩]⟩,
    ⟨"bob", [⟨.receive "bob" .text, false⟩]⟩]

theorem Stage.drive_returns_mishap :
    Stage.pair.Reached ∧ (drive .fast Participant.mishap Stage.pair).1.elapsed = 120 ∧
      ∃ marks deadline,
        Returned .fast Participant.mishap (settlements marks) deadline false 120 := by
  have elapsed : (drive .fast Participant.mishap Stage.pair).1.elapsed = 120 := by decide +kernel
  have sound : (drive .fast Participant.mishap Stage.pair).1.overflowed = false := by
    decide +kernel
  have enough : 2 ≤ Participant.mishap.length := by decide
  obtain ⟨-, returned, marks, w, r, atEnd, same⟩ :=
    Stage.Reached.pair.drive_returns .fast enough
  refine ⟨.pair, elapsed, marks, w.deadline, ?_⟩
  rw [← elapsed, ← sound, same]
  exact returned marks w r atEnd

/-- One fails at once, another after twenty-nine years, and the third works for three times as
long. -/
def Participant.lifework : List Participant :=
  [⟨"alice", [⟨.fail (.flowFailed "no"), false⟩]⟩,
    ⟨"carol", [⟨.sleep 914544000000, false⟩, ⟨.fail (.flowFailed "late"), false⟩]⟩,
    ⟨"bob", [⟨.sleep 914544000000, false⟩, ⟨.sleep 914544000000, false⟩,
      ⟨.sleep 914544000000, false⟩]⟩]

/-- A clock that runs out twenty years after the start of a run. -/
@[reducible] def Clock.lastYears : Clock := ⟨630720000 * 1000000000⟩

/-- A grace that ends in the last twenty years of the clock, counted from the first failure on, is
beyond the clock after a failure twenty-nine years later: its stand-in ends the run, long before
either bound, while a participant is at work. And on a clock that has less than thirty years left
every run overflows, however short its bounds. -/
theorem Stage.drive_returns_early :
    ∃ bound : Duration, ∃ config : Config, Config.new bound bound = .ok config ∧
      Tick.reaches 0 bound ∧ 2743632000000 < bound.milliseconds ∧
      (drive config Participant.lifework Stage.pair).1.elapsed = 1860624000000 ∧
      (drive config Participant.lifework Stage.pair).1.participants.map Prod.fst =
        [.failed, .failed, .running] ∧
      @Tick.reaches Clock.lastYears 0 Config.fast.timeout ∧
      (@drive Clock.lastYears .fast Participant.mishap Stage.pair).1.overflowed :=
  ⟨.ofParts 9223372036224055807 0,
    ⟨.ofParts 9223372036224055807 0, .ofParts 9223372036224055807 0⟩,
    by decide +kernel, by decide +kernel, by decide +kernel, by decide +kernel, by decide +kernel,
    by decide +kernel, by decide +kernel⟩

end Rehearsal
