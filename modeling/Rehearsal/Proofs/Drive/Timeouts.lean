import Rehearsal.Proofs.Drive.Deadlines
import Rehearsal.Proofs.Wakeups

/-!
# Longer timeouts

A driver with a longer timeout lets its participants do what they do with a shorter one: its timer
is not noticed before it fires. So a run in which everybody settles stays as it is when the timeout
is raised. The exception is a timeout that the clock cannot count, which comes down to thirty years,
in place of a shorter one that the clock can count.
-/

namespace Rehearsal

variable {config config' : Config} {participants : List Participant} {stage : Stage}
  {marks : List Mark} {w w' : Watch} {r r' : Run} {limit : Tick}

/-! ## Two watches -/

/-- A watch that has seen the same, and whose deadline is no nearer up to this moment. -/
structure Watch.Outlasts (limit : Tick) (w w' : Watch) : Prop where
  settled : w'.settled = w.settled
  failures : w'.failures = w.failures
  deadline : min w.deadline limit ≤ w'.deadline
  overflowed : w'.overflowed = w.overflowed

namespace Watch.Outlasts

/-- What is early for the one watch is early for the other. -/
theorem lt (h : w.Outlasts limit w') {now : Tick} (early : now < w.deadline)
    (within : now < limit) : now < w'.deadline :=
  Nat.lt_of_lt_of_le (Nat.lt_min.mpr ⟨early, within⟩) h.deadline

theorem le (h : w.Outlasts limit w') {now : Tick} (early : now ≤ w.deadline)
    (within : now < limit) : now ≤ w'.deadline :=
  Nat.le_trans (Nat.le_min.mpr ⟨early, Nat.le_of_lt within⟩) h.deadline

/-- Where nobody is stuck, what is handed out does not tell one watch from the other. -/
theorem concluded (h : w.Outlasts limit w') (all : w.stuck (participants.map (·.name)) = [])
    (r : Run) : concluded config' participants w' r = concluded config participants w r := by
  have all' : w'.stuck (participants.map (·.name)) = [] := by
    rwa [Watch.stuck, h.settled]
  have verdict : w'.verdict config' (participants.map (·.name)) =
      w.verdict config (participants.map (·.name)) := by
    rw [Watch.verdict, Watch.verdict, h.failures, all, all']
    rfl
  have closing : w'.closing config' (participants.map (·.name)) =
      w.closing config (participants.map (·.name)) := by
    rw [Watch.closing, Watch.closing, h.failures, all, all']
    rfl
  rw [Rehearsal.concluded, Rehearsal.concluded, verdict, closing, h.overflowed]

end Watch.Outlasts

theorem Run.now_drain (h : r.Reached) (fuel : Nat) : (r.drain fuel).now = r.now := by
  have kept := Run.drain_induction (P := fun r' => r'.Reached ∧ r'.now = r.now)
    (fun r' i ⟨reached, now⟩ hi => by
      obtain ⟨t, t', stage', took⟩ := reached.sound.took hi
      exact ⟨reached.step (.turn hi), took.now.trans now⟩) fuel ⟨h, rfl⟩
  exact kept.2

theorem Duration.milliseconds_le {a b : Duration} (h : a ≤ b) : a.milliseconds ≤ b.milliseconds :=
  Nat.div_le_div_right (Nat.add_le_add_right h _)

/-- Whether a participant settled. -/
def Status.isSettled : Status → Bool
  | notStarted | running => false
  | completed | failed | panicked => true

theorem Task.isSettled_status (t : Task) : t.status.isSettled = t.isEnded := by
  cases phase : t.phase with
  | unstarted => simp [status, isEnded, phase, Status.isSettled]
  | waiting => simp [status, isEnded, phase, Status.isSettled]
  | ended result =>
    rcases result with (_ | _) | _ <;> simp [status, isEnded, phase, Status.isSettled]

section
variable [Clock]

namespace Watch.Outlasts

/-- Whether a sum overflows at the start does not depend on the timeout. -/
theorem start (start : min (Tick.after 0 config.timeout) limit ≤ Tick.after 0 config'.timeout) :
    (Watch.start config 0).Outlasts limit (Watch.start config' 0) := by
  refine ⟨rfl, rfl, start, Bool.eq_iff_iff.mpr ?_⟩
  exact (Tick.isNone_after? 0 config'.timeout).trans (Tick.isNone_after? 0 config.timeout).symm

/-- Both see the same, and say the same of it. -/
theorem observe (h : w.Outlasts limit w') (grace : config'.failureGrace = config.failureGrace)
    (now : Tick) (index : Nat) (name : String) (result : Except Failure Unit) :
    (w.observe config now index name result).1.Outlasts limit
        (w'.observe config' now index name result).1 ∧
      (w'.observe config' now index name result).2 =
        (w.observe config now index name result).2 := by
  cases result with
  | ok => exact ⟨⟨congrArg (· ++ [index]) h.settled, h.failures, h.deadline, h.overflowed⟩, rfl⟩
  | error failure =>
    refine ⟨⟨congrArg (· ++ [index]) h.settled, congrArg (· ++ [_]) h.failures, ?_, ?_⟩, rfl⟩
    · show min (min w.deadline (now.after config.failureGrace)) limit ≤
        min w'.deadline (now.after config'.failureGrace)
      rw [grace, Nat.min_right_comm]
      exact Nat.le_min.mpr ⟨Nat.le_trans (Nat.min_le_left _ _) h.deadline, Nat.min_le_right _ _⟩
    · show (w'.overflowed || (now.after? config'.failureGrace).isNone) =
        (w.overflowed || (now.after? config.failureGrace).isNone)
      rw [grace, h.overflowed]

end Watch.Outlasts

namespace Run

theorem observed_outlasts (h : w.Outlasts limit w')
    (grace : config'.failureGrace = config.failureGrace) (names : List String)
    (indices : List Nat) (r : Run) :
    (indices.foldl (observe config names) (w, r)).1.Outlasts limit
        (indices.foldl (observe config' names) (w', r)).1 ∧
      (indices.foldl (observe config' names) (w', r)).2 =
        (indices.foldl (observe config names) (w, r)).2 := by
  induction indices generalizing w w' r with
  | nil => exact ⟨h, rfl⟩
  | cons i indices ih =>
    rw [List.foldl_cons, List.foldl_cons]
    unfold observe
    dsimp only
    split
    · next result name _ _ =>
      obtain ⟨outlasts, same⟩ := h.observe grace r.now i name result
      rw [same]
      exact ih outlasts _
    · exact ih h r

/-- A look of the driver comes to the same for both watches. -/
theorem observeAll_outlasts {w₁ : Watch} (h : w.Outlasts limit w')
    (grace : config'.failureGrace = config.failureGrace) {names : List String}
    (looked : r.observeAll config names w = (w₁, r')) :
    ∃ w₁', r.observeAll config' names w' = (w₁', r') ∧ w₁.Outlasts limit w₁' := by
  obtain ⟨outlasts, same⟩ := observed_outlasts h grace names r.ended { r with ended := [] }
  rw [show r.ended.foldl (observe config names) (w, { r with ended := [] }) = (w₁, r')
    from looked] at outlasts same
  exact ⟨_, Prod.ext rfl same, outlasts⟩

end Run

/-! ## Two drivers, in any order of turns -/

/-- What goes on with the one timeout goes on with the other. -/
theorem Underway.outlast (under : Underway config participants stage marks w r)
    (h : stage.Reached) (grace : config'.failureGrace = config.failureGrace)
    (start : min (Tick.after 0 config.timeout) limit ≤ Tick.after 0 config'.timeout)
    (within : r.now < limit) :
    ∃ w', Underway config' participants stage marks w' r ∧ w.Outlasts limit w' := by
  induction under with
  | opened some_time =>
    exact ⟨_, .opened (Nat.lt_of_lt_of_le (Nat.lt_min.mpr ⟨some_time, within⟩) start), .start start⟩
  | turn under ready ih =>
    obtain ⟨t, t', stage', took⟩ := (under.reached h).sound.took ready
    obtain ⟨w', under', outlasts⟩ := ih (took.now ▸ within)
    exact ⟨w', under'.turn ready, outlasts⟩
  | look under looked some_left early ih =>
    obtain ⟨-, now, -, -⟩ := Run.of_looked looked
    obtain ⟨w', under', outlasts⟩ := ih (now ▸ within)
    obtain ⟨w₁', looked', outlasts'⟩ := Run.observeAll_outlasts outlasts grace looked
    exact ⟨w₁', under'.look looked' (outlasts'.settled ▸ some_left) (outlasts'.lt early within),
      outlasts'⟩
  | @sleep marks w r due under idle seen next early ih =>
    obtain ⟨⟨t, ht, hd⟩, -⟩ := Run.nextDue_spec next
    have later := (under.reached h).sound.lt_of_due idle ht hd
    obtain ⟨w', under', outlasts⟩ := ih (Nat.lt_trans later within)
    exact ⟨w', under'.sleep idle seen next (outlasts.le early within), outlasts⟩

/-- Where everybody has settled, the driver counts as many. -/
theorem Closed.many_of_nobody_left (closed : Closed config participants marks w r)
    (all : unsettled participants (settlements marks) = []) :
    r.tasks.length ≤ w.settled.length := by
  have subset : List.range participants.length ⊆ (settlements marks).map Settlement.index :=
    fun i hi => (unsettled_eq_nil_iff _ _).mp all i (List.mem_range.mp hi)
  have many := (List.nodup_range.subperm subset).length_le
  rw [closed.tasks, closed.watch]
  simpa [watchOf] using many

/-- A run in which everybody settles is over as the driver looks. -/
theorem Over.exists_look (atEnd : Over config participants stage marks w r) (h : stage.Reached)
    (enough : 2 ≤ participants.length) (many : r.tasks.length ≤ w.settled.length) :
    ∃ w₀ r₀, Underway config participants stage marks w₀ r₀ ∧
      r₀.observeAll config (participants.map (·.name)) w₀ = (w, r) := by
  have some_part : 0 < participants.length := Nat.lt_of_lt_of_le Nat.zero_lt_two enough
  cases atEnd with
  | unopened =>
    have tasks : (Run.opened participants stage).tasks.length = participants.length :=
      List.length_map ..
    rw [tasks] at many
    exact absurd some_part (Nat.not_lt.mpr many)
  | looked under looked => exact ⟨_, _, under, looked⟩
  | @late _ _ r under =>
    -- When the driver last looked, somebody was left, and nobody settled since.
    have left := (under.timed h some_part).someLeft
    rw [← (under.ledger h).tasks] at left
    exact absurd many (Nat.not_le.mpr left)

/-- A run in which everybody settles with the one timeout is possible with the other. -/
theorem Over.outlast (atEnd : Over config participants stage marks w r) (h : stage.Reached)
    (enough : 2 ≤ participants.length) (grace : config'.failureGrace = config.failureGrace)
    (start : min (Tick.after 0 config.timeout) limit ≤ Tick.after 0 config'.timeout)
    (within : r.now < limit) (all : unsettled participants (settlements marks) = []) :
    ∃ w', Over config' participants stage marks w' r ∧ w.Outlasts limit w' := by
  have many := (atEnd.closed h).many_of_nobody_left all
  obtain ⟨w₀, r₀, under, looked⟩ := atEnd.exists_look h enough many
  obtain ⟨-, now, -, -⟩ := Run.of_looked looked
  obtain ⟨w₀', under', outlasts⟩ := under.outlast h grace start (now ▸ within)
  obtain ⟨w', looked', outlasts'⟩ := Run.observeAll_outlasts outlasts grace looked
  exact ⟨w', .looked under' looked' (.inl (outlasts'.settled ▸ many)), outlasts'⟩

/-! ## The driver that runs -/

/-- The clock never goes back. -/
theorem Run.now_le_rounds (config : Config) (names : List String) (fuel : Nat) (h : r.Reached)
    (w : Watch) : r.now ≤ (Run.rounds config names fuel (w, r)).2.now := by
  induction fuel generalizing w r with
  | zero => exact Nat.le_refl _
  | succ fuel ih =>
    rcases looked : r.observeAll config names w with ⟨w', r'⟩
    obtain ⟨-, now, -, -⟩ := Run.of_looked looked
    have reached := h.trans (Run.steps_observeAll looked)
    rw [Run.rounds, looked, ← now]
    dsimp only
    have decides := Run.decides_course w' r'
    generalize Run.course w' r' = course at decides
    cases decides with
    | finished => exact Nat.le_refl _
    | turns =>
      rw [← Run.now_drain reached r'.turns]
      exact ih (reached.drain _) w'
    | @sleeps due some_left early idle next =>
      obtain ⟨⟨t, ht, hd⟩, -⟩ := Run.nextDue_spec next
      exact Nat.le_trans (Nat.le_of_lt (reached.sound.lt_of_due idle ht hd))
        (ih (reached.step (reached.sound.step_advance idle next)) w')
    | late some_left early => exact Nat.le_of_lt early

/-- If everybody settles, the rounds of the driver come to the same for both watches. -/
theorem Run.rounds_outlast {names : List String} {fuel : Nat} (h : r.Reached)
    (outlasts : w.Outlasts limit w') (grace : config'.failureGrace = config.failureGrace)
    (all : (Run.rounds config names fuel (w, r)).2.tasks.length ≤
      (Run.rounds config names fuel (w, r)).1.settled.length)
    (within : (Run.rounds config names fuel (w, r)).2.now < limit) :
    (Run.rounds config names fuel (w, r)).1.Outlasts limit
        (Run.rounds config' names fuel (w', r)).1 ∧
      (Run.rounds config' names fuel (w', r)).2 = (Run.rounds config names fuel (w, r)).2 := by
  induction fuel generalizing w w' r with
  | zero => exact ⟨outlasts, rfl⟩
  | succ fuel ih =>
    rcases looked : r.observeAll config names w with ⟨w₁, r'⟩
    obtain ⟨w₁', looked', outlasts'⟩ := Run.observeAll_outlasts outlasts grace looked
    have reached := h.trans (Run.steps_observeAll looked)
    have settled := outlasts'.settled
    rw [Run.rounds, looked] at all within ⊢
    rw [Run.rounds, looked']
    dsimp only at all within ⊢
    have decides := Run.decides_course w₁ r'
    generalize Run.course w₁ r' = course at all within decides ⊢
    cases decides with
    | finished =>
      have finished : r'.Decides w₁' (.over r'.now) := .finished (.inl (settled ▸ all))
      rw [finished.course_eq]
      exact ⟨outlasts', rfl⟩
    | turns some_left early busy =>
      dsimp only at all within ⊢
      have now := Run.now_drain reached r'.turns
      have soon := Nat.lt_of_le_of_lt
        (now ▸ Run.now_le_rounds config names fuel (reached.drain r'.turns) w₁) within
      have turns : r'.Decides w₁' .turns :=
        .turns (settled ▸ some_left) (outlasts'.lt early soon) busy
      rw [turns.course_eq]
      exact ih (reached.drain _) outlasts' all within
    | @sleeps due some_left early idle next before =>
      dsimp only at all within ⊢
      have later : (r'.advance due).Reached := reached.step (reached.sound.step_advance idle next)
      have soon : due < limit :=
        Nat.lt_of_le_of_lt (Run.now_le_rounds config names fuel later w₁) within
      obtain ⟨⟨t, ht, hd⟩, -⟩ := Run.nextDue_spec next
      have now := Nat.lt_trans (reached.sound.lt_of_due idle ht hd) soon
      have sleeps : r'.Decides w₁' (.sleeps due) :=
        .sleeps (settled ▸ some_left) (outlasts'.lt early now) idle next (outlasts'.lt before soon)
      rw [sleeps.course_eq]
      exact ih later outlasts' all within
    | late some_left => exact absurd all (Nat.not_le.mpr some_left)

/-! ## Raising the timeout -/

/-- Whether a moment is one up to which the longer of two timeouts is the longer: the clock counts
both, or neither, or no thirty years have passed. -/
def Config.Outlasts (config config' : Config) (now : Tick) : Prop :=
  Tick.reaches 0 config.timeout → ¬ Tick.reaches 0 config'.timeout → now < Tick.farFuture

/-- Up to a later moment the longer timeout is the longer. -/
theorem Config.Outlasts.exists_limit {now : Tick} (h : config.Outlasts config' now)
    (longer : config.timeout ≤ config'.timeout) :
    ∃ limit, min (Tick.after 0 config.timeout) limit ≤ Tick.after 0 config'.timeout ∧
      now < limit := by
  by_cases fits : Tick.reaches 0 config.timeout
  · by_cases fits' : Tick.reaches 0 config'.timeout
    · refine ⟨now + 1, Nat.le_trans (Nat.min_le_left _ _) ?_, Nat.lt_succ_self now⟩
      rw [Tick.after, Tick.after, if_pos fits, if_pos fits']
      exact Nat.add_le_add_left (Duration.milliseconds_le longer) 0
    · refine ⟨Tick.farFuture, Nat.le_trans (Nat.min_le_right _ _) ?_, h fits fits'⟩
      rw [Tick.after, if_neg fits']
      exact Nat.le_add_left _ _
  · have fits' : ¬ Tick.reaches 0 config'.timeout := by
      intro fits'
      refine fits ?_
      simp only [Tick.reaches, decide_eq_true_eq] at fits' ⊢
      exact Nat.lt_of_le_of_lt (Nat.add_le_add_left longer _) fits'
    refine ⟨now + 1, Nat.le_trans (Nat.min_le_left _ _) ?_, Nat.lt_succ_self now⟩
    rw [Tick.after, Tick.after, if_neg fits, if_neg fits']

/-- Where all have ended, nobody is left. -/
theorem Closed.nobody_left_of_ended (closed : Closed config participants marks w r)
    (ended : ∀ t ∈ r.tasks, t.isEnded) : unsettled participants (settlements marks) = [] := by
  refine (unsettled_eq_nil_iff _ _).mpr fun i hi => ?_
  rw [← closed.tasks] at hi
  have ht := ended r.tasks[i] (List.getElem_mem hi)
  cases phase : r.tasks[i].phase with
  | ended result =>
    have settled : r.tasks[i]?.bind Task.result? = some result := by
      simp [List.getElem?_eq_getElem hi, Task.result?, phase]
    obtain ⟨s, hs, same, -⟩ := (closed.results i result).mp settled
    exact same ▸ List.mem_map_of_mem hs
  | _ => simp [Task.isEnded, phase] at ht

/-- A success leaves nobody. -/
theorem Closed.nobody_left_of_ok (closed : Closed config participants marks w r)
    (ok : (concluded config participants w r).1.result = .ok ()) :
    unsettled participants (settlements marks) = [] := by
  have judged := judged_watchOf config closed.inside closed.once
  rw [← closed.watch] at judged
  refine (unsettled_eq_nil_iff _ _).mpr fun i hi => ?_
  obtain ⟨s, hs, same, -⟩ := judged.completed.mp ok i hi
  exact same ▸ List.mem_map_of_mem hs

/-- The driver reports a success before the timeout. -/
theorem Over.now_lt_of_ok (atEnd : Over config participants stage marks w r) (h : stage.Reached)
    (enough : 2 ≤ participants.length) (short : Short marks w)
    (ok : (concluded config participants w r).1.result = .ok ()) :
    r.now < Tick.after 0 config.timeout := by
  have closed := atEnd.closed h
  have many := closed.many_of_nobody_left (closed.nobody_left_of_ok ok)
  have none : w.failures = [] := by
    cases failures : w.failures with
    | nil => rfl
    | cons first others =>
      have failed : w.verdict config (participants.map (·.name)) = .error first := by
        rw [Watch.verdict, failures]
      rw [show (concluded config participants w r).1.result = _ from failed] at ok
      cases ok
  have deadline : w.deadline = Tick.after 0 config.timeout := by
    rw [closed.watch] at none ⊢
    exact deadline_of_no_failure none
  obtain ⟨w₀, r₀, under, looked⟩ := atEnd.exists_look h enough many
  obtain ⟨-, now, -, -⟩ := Run.of_looked looked
  rw [now, ← deadline]
  rcases (under.ledger h).clock with zero | woke
  · rw [zero, deadline]
    exact under.some_time
  · exact short none _ woke

/-- If everybody settles in time, the driver does with the one timeout what it does with the
other. -/
theorem Stage.Reached.drive_outlast (h : stage.Reached) (enough : 2 ≤ participants.length)
    (grace : config'.failureGrace = config.failureGrace)
    (start : min (Tick.after 0 config.timeout) limit ≤ Tick.after 0 config'.timeout)
    (within : (drive config participants stage).1.elapsed < limit)
    (all : (drive config participants stage).1.result = .ok () ∨
      ∀ p ∈ (drive config participants stage).1.participants, p.1.isSettled) :
    drive config' participants stage = drive config participants stage := by
  obtain ⟨marks, atEnd, -⟩ := over_drivenRounds h config participants
  have closed := atEnd.closed h
  rw [drive_eq_concluded config stage enough] at within all ⊢
  rw [drive_eq_concluded config' stage enough]
  have nobody : unsettled participants (settlements marks) = [] := by
    rcases all with ok | settled
    · exact closed.nobody_left_of_ok ok
    · refine closed.nobody_left_of_ended fun t ht => ?_
      rw [← t.isSettled_status]
      exact settled (t.status, t.log) (List.mem_map_of_mem ht)
  obtain ⟨outlasts, same⟩ := Run.rounds_outlast (h.opened participants) (.start start) grace
    (closed.many_of_nobody_left nobody) within
  have stuck : (drivenRounds config participants stage).1.stuck
      (participants.map (·.name)) = [] := by
    rw [closed.watch, stuck_watchOf, nobody]
  rw [show (drivenRounds config' participants stage).2 = _ from same]
  exact outlasts.concluded stuck _

/-- A run that takes thirty years or more is no success with a timeout that the clock cannot
count. -/
theorem Stage.Reached.drive_stand_in (h : stage.Reached) (enough : 2 ≤ participants.length)
    (grace : config'.failureGrace = config.failureGrace)
    (beyond : ¬ Tick.reaches 0 config'.timeout)
    (long : Tick.farFuture ≤ (drive config participants stage).1.elapsed) :
    (drive config' participants stage).1.result ≠ .ok () := by
  intro ok
  have stand_in : Tick.after 0 config'.timeout = Tick.farFuture := by
    rw [Tick.after, if_neg beyond, Nat.zero_add]
  have within : (drive config' participants stage).1.elapsed < Tick.farFuture := by
    obtain ⟨marks, w, r, atEnd, short, same⟩ := drive_possible h config' enough
    rw [same] at ok ⊢
    exact stand_in ▸ atEnd.now_lt_of_ok h enough short ok
  have bound : Tick.farFuture ≤ Tick.after 0 config.timeout := by
    obtain ⟨marks, w, r, atEnd, -, same⟩ := drive_possible h config enough
    have timeout := (atEnd.returned h (Nat.lt_of_lt_of_le Nat.zero_lt_two enough)).timeout
    rw [← Nat.zero_add (Duration.milliseconds _), ← Tick.after_eq] at timeout
    rw [same] at long
    exact Nat.le_trans long timeout
  have same := h.drive_outlast enough grace.symm
    (Nat.le_trans (Nat.min_le_right _ _) bound) within (.inl ok)
  rw [same] at long
  exact absurd within (Nat.not_lt.mpr long)

/-- **Raising the timeout** never hurts, unless the clock cannot count the longer timeout and the
run takes thirty years or more. Every driven run in which everybody settles with the shorter timeout
is possible with the longer one, and comes to the same. If the driver reports success, or if
everybody settled, however it went, then with the longer timeout the driver does just the same: the
report, what became of everybody, the moment, and the stage that is left. In the excepted case the
longer timeout allows no success. -/
theorem Stage.Reached.timeout_raised (h : stage.Reached) (enough : 2 ≤ participants.length)
    (grace : config'.failureGrace = config.failureGrace)
    (longer : config.timeout ≤ config'.timeout) :
    (∀ marks w r, Over config participants stage marks w r →
      unsettled participants (settlements marks) = [] → config.Outlasts config' r.now →
      ∃ w', Over config' participants stage marks w' r ∧
        concluded config' participants w' r = concluded config participants w r) ∧
    (config.Outlasts config' (drive config participants stage).1.elapsed →
      ((drive config participants stage).1.result = .ok () →
        drive config' participants stage = drive config participants stage) ∧
      ((∀ p ∈ (drive config participants stage).1.participants, p.1.isSettled) →
        drive config' participants stage = drive config participants stage)) ∧
    (¬ config.Outlasts config' (drive config participants stage).1.elapsed →
      (drive config' participants stage).1.result ≠ .ok ()) := by
  refine ⟨fun marks w r atEnd all outlasts => ?_, fun outlasts => ?_, fun falls_short => ?_⟩
  · obtain ⟨limit, start, within⟩ := outlasts.exists_limit longer
    obtain ⟨w', atEnd', same⟩ := atEnd.outlast h enough grace start within all
    refine ⟨w', atEnd', same.concluded ?_ r⟩
    rw [(atEnd.closed h).watch, stuck_watchOf, all]
  · obtain ⟨limit, start, within⟩ := outlasts.exists_limit longer
    exact ⟨fun ok => h.drive_outlast enough grace start within (.inl ok),
      fun settled => h.drive_outlast enough grace start within (.inr settled)⟩
  · simp only [Config.Outlasts, Classical.not_imp, Nat.not_lt] at falls_short
    exact h.drive_stand_in enough grace falls_short.2.1 falls_short.2.2

end

attribute [local instance] Clock.usual

/-- One fails after twenty milliseconds, and the other completes after sixty. -/
def Participant.setback : List Participant :=
  [⟨"alice", [⟨.sleep 20, false⟩, ⟨.fail (.flowFailed "no"), false⟩]⟩,
    ⟨"bob", [⟨.sleep 60, false⟩]⟩]

theorem Stage.timeout_raised_setback :
    Config.fast.timeout ≤ Config.patient.timeout ∧
      drive ⟨Config.patient.timeout, Config.fast.failureGrace⟩ Participant.setback Stage.pair =
        drive .fast Participant.setback Stage.pair ∧
      (drive .fast Participant.setback Stage.pair).1.result =
        .error (.participantFailed "alice" (.flowFailed "no")) := by
  have longer : Config.fast.timeout ≤ Config.patient.timeout := by decide
  have counted : Config.fast.Outlasts ⟨Config.patient.timeout, Config.fast.failureGrace⟩
      (drive .fast Participant.setback Stage.pair).1.elapsed :=
    fun _ beyond => absurd (by decide +kernel) beyond
  have settled : ∀ p ∈ (drive .fast Participant.setback Stage.pair).1.participants,
      p.1.isSettled := by decide +kernel
  obtain ⟨-, stays, -⟩ := @Stage.Reached.timeout_raised .fast
    ⟨Config.patient.timeout, Config.fast.failureGrace⟩ Participant.setback Stage.pair .usual
    .pair (by decide) rfl longer
  exact ⟨longer, (stays counted).2 settled, by rfl⟩

/-- One sleeps for twenty years, and for twenty years more. -/
def Participant.sleeper : List Participant :=
  [⟨"alice", [⟨.sleep 630720000000, false⟩, ⟨.sleep 630720000000, false⟩]⟩, ⟨"bob", []⟩]

/-- The longest timeout comes down to thirty years, so a run that is a success with a shorter
timeout is a deadlock with it. -/
theorem Stage.timeout_raised_too_far : ∃ short long : Config,
    Config.new (.ofParts 2000000000 0) .zero = .ok short ∧
    Config.new (.ofParts 18446744073709551615 999999999) .zero = .ok long ∧
    short.timeout ≤ long.timeout ∧ short.failureGrace = long.failureGrace ∧
    (drive short Participant.sleeper {}).1.result = .ok () ∧
    (drive long Participant.sleeper {}).1.result =
      .error (.participantDeadlock ["alice"] long.timeout) :=
  ⟨⟨.ofParts 2000000000 0, .zero⟩, ⟨.ofParts 18446744073709551615 999999999, .zero⟩,
    by decide +kernel, by decide +kernel, by decide +kernel, rfl, by rfl, by rfl⟩

end Rehearsal
