import Mathlib.Algebra.Order.BigOperators.Group.List
import Mathlib.Algebra.Order.Ring.Nat
import Rehearsal.Proofs.Drive.Driver
import Rehearsal.Scenario.Steps

/-!
# The rounds of the driver

The driver that runs is one of the possible ones: its rounds come to an end within their budget, and
what they come to is a driven run that is over. What it leaves behind is a stage on which nobody is
at work, so that scenarios only ever see reached stages.
-/

namespace Rehearsal

namespace Run

variable {r : Run} {i : Nat}

/-! ## The budget of rounds -/

/-- The lines that are not started, and the sleeps that are not over. -/
def pending (r : Run) : Nat :=
  (r.tasks.map fun t => t.script.length + t.phase.asleep r.now).sum

/-- What a round uses up: a round of turns leaves nobody ready, and a sleep is over once. -/
def rest (r : Run) : Nat := 2 * r.pending + if r.ready = [] then 1 else 2

theorem Sound.pending_turn (h : r.Sound) (hi : i ∈ r.ready) : (r.turn i).pending ≤ r.pending := by
  obtain ⟨t, t', stage, took⟩ := h.took hi
  have sum := sum_map_set took.before t' fun t => t.script.length + t.phase.asleep r.now
  have left := took.left
  rw [took.after, pending, pending]
  show ((r.tasks.set i t').map fun t => t.script.length + t.phase.asleep r.now).sum ≤ _
  omega

theorem Sound.pending_drain (h : r.Sound) (fuel : Nat) :
    (r.drain fuel).Sound ∧ (r.drain fuel).pending ≤ r.pending := by
  refine drain_induction (P := fun r' => r'.Sound ∧ r'.pending ≤ r.pending)
    (fun r' i ⟨sound, bound⟩ hi => ?_) fuel ⟨h, Nat.le_refl _⟩
  exact ⟨sound.turn hi, Nat.le_trans (sound.pending_turn hi) bound⟩

/-- A round of turns uses up some of the budget. -/
theorem Sound.rest_drain (h : r.Sound) (busy : r.ready ≠ []) :
    (r.drain r.turns).rest < r.rest := by
  have idle := h.ready_drain (potential_le_turns r)
  have bound := (h.pending_drain r.turns).2
  rw [rest, rest, if_pos idle, if_neg busy]
  omega

theorem asleep_of_due {t : Task} {due now : Tick} (h : t.due? = some due) :
    t.phase.asleep now = if due ≤ now then 0 else 1 := by
  unfold Task.due? at h
  split at h
  · next phase =>
    cases h
    rw [phase, Phase.asleep]
  · cases h

theorem asleep_of_not_due {t : Task} {now : Tick} (h : t.due? = none) :
    t.phase.asleep now = 0 := by
  unfold Task.due? at h
  split at h
  · cases h
  · next awake =>
    cases phase : t.phase with
    | waiting wait tolerant =>
      cases wait with
      | sleep due => exact absurd phase (awake due tolerant)
      | _ => rfl
    | _ => rfl

/-- A sleep uses up some of the budget. -/
theorem Sound.rest_advance (h : r.Sound) (idle : r.ready = []) {due : Tick}
    (next : r.nextDue? = some due) : (r.advance due).rest < r.rest := by
  obtain ⟨⟨t, ht, hd⟩, least⟩ := nextDue_spec next
  have woken : (r.advance due).pending < r.pending := by
    refine List.sum_lt_sum _ _ (fun u hu => ?_) ⟨t, ht, ?_⟩
    · show u.script.length + u.phase.asleep due ≤ u.script.length + u.phase.asleep r.now
      cases hu' : u.due? with
      | none => rw [asleep_of_not_due hu', asleep_of_not_due hu']
      | some other =>
        have later := h.lt_of_due idle hu hu'
        rw [asleep_of_due hu', asleep_of_due hu', if_neg (Nat.not_le.mpr later)]
        split <;> omega
    · show t.script.length + t.phase.asleep due < t.script.length + t.phase.asleep r.now
      have later := h.lt_of_due idle ht hd
      rw [asleep_of_due hd, asleep_of_due hd, if_pos (Nat.le_refl due),
        if_neg (Nat.not_le.mpr later)]
      omega
  rw [rest, rest, if_pos idle]
  split <;> omega

/-- The budget is enough: before the first turn nobody is asleep. -/
theorem rest_lt_budget (awake : ∀ t ∈ r.tasks, t.phase.asleep r.now = 0) : r.rest < r.budget := by
  have same : r.pending = r.remaining := by
    rw [pending, remaining_eq]
    congr 1
    exact List.map_congr_left fun t ht => by rw [awake t ht, Nat.add_zero]
  rw [rest, budget, same]
  split <;> omega

end Run

/-! ## The rounds are a driven run -/

variable {config : Config} {participants : List Participant} {stage : Stage}
  {marks : List Mark} {w w' : Watch} {r r' : Run}

/-- While nobody has failed, the clock stays short of the deadline. -/
def Short (marks : List Mark) (w : Watch) : Prop :=
  w.failures = [] → ∀ due, .woke due ∈ marks → due < w.deadline

/-- Why a run goes on as it does once the driver has looked. -/
inductive Run.Decides (w : Watch) (r : Run) : Course → Prop where
  | finished (done : r.tasks.length ≤ w.settled.length ∨ w.deadline ≤ r.now) :
    Decides w r (.over r.now)
  | turns (some_left : w.settled.length < r.tasks.length) (early : r.now < w.deadline)
      (busy : r.ready ≠ []) : Decides w r .turns
  | sleeps {due : Tick} (some_left : w.settled.length < r.tasks.length)
      (early : r.now < w.deadline) (idle : r.ready = []) (next : r.nextDue? = some due)
      (before : due < w.deadline) : Decides w r (.sleeps due)
  | late (some_left : w.settled.length < r.tasks.length) (early : r.now < w.deadline)
      (idle : r.ready = []) (none_due : ∀ due, r.nextDue? = some due → w.deadline ≤ due) :
    Decides w r (.over w.deadline)

theorem Run.decides_course (w : Watch) (r : Run) : r.Decides w (course w r) := by
  unfold course
  by_cases done : r.tasks.length ≤ w.settled.length ∨ w.deadline ≤ r.now
  · rw [if_pos (by simpa using done)]
    exact .finished done
  · obtain ⟨left, early⟩ := not_or.mp done
    have some_left := Nat.lt_of_not_le left
    have early := Nat.lt_of_not_le early
    rw [if_neg (by simpa using done)]
    by_cases busy : r.ready = []
    · rw [if_neg (by simp [busy])]
      cases next : r.nextDue? with
      | none => exact .late some_left early busy (by simp [next])
      | some due =>
        dsimp only
        by_cases before : due < w.deadline
        · rw [if_pos before]
          exact .sleeps some_left early busy next before
        · rw [if_neg before]
          refine .late some_left early busy fun other ho => ?_
          rw [next] at ho
          cases ho
          exact Nat.le_of_not_lt before
    · rw [if_pos (by simpa using busy)]
      exact .turns some_left early busy

/-- There is only one way to go on. -/
theorem Run.Decides.course_eq {course : Course} (h : r.Decides w course) :
    Run.course w r = course := by
  cases h with
  | finished done => rw [Run.course, if_pos (by simpa using done)]
  | turns some_left early busy =>
    rw [Run.course, if_neg (by simp [some_left, early]), if_pos (by simpa using busy)]
  | sleeps some_left early idle next before =>
    rw [Run.course, if_neg (by simp [some_left, early]), if_neg (by simp [idle]), next]
    exact if_pos before
  | late some_left early idle none_due =>
    rw [Run.course, if_neg (by simp [some_left, early]), if_neg (by simp [idle])]
    cases next : r.nextDue? with
    | none => rfl
    | some due => exact if_neg (Nat.not_lt.mpr (none_due due next))

section
variable [Clock]

/-- Only a failure moves the deadline. -/
theorem Run.deadline_of_looked {names : List String}
    (looked : r.observeAll config names w = (w', r')) (none : w'.failures = []) :
    w.failures = [] ∧ w'.deadline = w.deadline := by
  have fold : ∀ (indices : List Nat) (state : Watch × Run),
      (indices.foldl (Run.observe config names) state).1.failures = [] →
        state.1.failures = [] ∧
          (indices.foldl (Run.observe config names) state).1.deadline = state.1.deadline := by
    intro indices
    induction indices with
    | nil => exact fun state h => ⟨h, rfl⟩
    | cons i indices ih =>
      intro state h
      obtain ⟨failures, deadline⟩ := ih _ h
      rw [List.foldl_cons, deadline]
      unfold Run.observe at failures ⊢
      dsimp only at failures ⊢
      split at failures
      · next result name _ _ =>
        cases result with
        | ok => exact ⟨failures, rfl⟩
        | error failure => simp [Watch.observe] at failures
      · exact ⟨failures, rfl⟩
  have all := fold r.ended (w, { r with ended := [] })
  rw [show r.ended.foldl (Run.observe config names) (w, { r with ended := [] }) = (w', r')
    from looked] at all
  exact all none

/-- Turns until nobody can go on are part of a driven run. -/
theorem Underway.drain (under : Underway config participants stage marks w r) (fuel : Nat) :
    ∃ marks', Underway config participants stage (marks ++ marks') w (r.drain fuel) ∧
      ∀ due, .woke due ∉ marks' := by
  refine Run.drain_induction (P := fun r' => ∃ marks',
    Underway config participants stage (marks ++ marks') w r' ∧ ∀ due, .woke due ∉ marks')
    (fun r' i ⟨marks', under', settled⟩ hi => ?_) fuel ⟨[], by simpa using under, by simp⟩
  refine ⟨marks' ++ r'.settles i, by simpa using under'.turn hi, fun due hm => ?_⟩
  rcases List.mem_append.mp hm with hm | hm
  · exact settled due hm
  · unfold Run.settles at hm
    split at hm <;> simp at hm

/-- **The rounds of the driver** are a driven run that is over once the budget is enough. -/
theorem over_rounds (h : stage.Reached) {fuel : Nat}
    (under : Underway config participants stage marks w r) (short : Short marks w)
    (enough : r.rest < fuel) : ∃ marks',
      Over config participants stage marks'
        (Run.rounds config (participants.map (·.name)) fuel (w, r)).1
        (Run.rounds config (participants.map (·.name)) fuel (w, r)).2 ∧
      Short marks' (Run.rounds config (participants.map (·.name)) fuel (w, r)).1 := by
  -- Every round either drains turns or advances the clock, and each of these lowers `rest`.
  induction fuel generalizing marks w r with
  | zero => omega
  | succ fuel ih =>
    rcases looked : r.observeAll config (participants.map (·.name)) w with ⟨w', r'⟩
    obtain ⟨tasks, now, ready, seen⟩ := Run.of_looked looked
    have short' : Short marks w' := by
      intro none due hm
      obtain ⟨before, deadline⟩ := Run.deadline_of_looked looked none
      rw [deadline]
      exact short before due hm
    rw [Run.rounds, looked]
    dsimp only
    have sound := ((under.reached h).trans (Run.steps_observeAll looked)).sound
    have same : r'.rest = r.rest := by
      rw [Run.rest, Run.rest, Run.pending, Run.pending, tasks, now, ready]
    have decides := Run.decides_course w' r'
    generalize Run.course w' r' = course at decides
    cases decides with
    | finished done => exact ⟨marks, .looked under looked done, short'⟩
    | turns some_left early busy =>
      have on := under.look looked some_left early
      obtain ⟨marks', drained, settled⟩ := on.drain r'.turns
      have spent := sound.rest_drain busy
      refine ih drained (fun none due hm => ?_) (by omega)
      rcases List.mem_append.mp hm with hm | hm
      · exact short' none due hm
      · exact absurd hm (settled due)
    | @sleeps due some_left early idle next before =>
      have on := under.look looked some_left early
      have spent := sound.rest_advance idle next
      refine ih (on.sleep idle seen next (Nat.le_of_lt before)) (fun none other hm => ?_)
        (by omega)
      rcases List.mem_append.mp hm with hm | hm
      · exact short' none other hm
      · cases List.mem_singleton.mp hm
        exact before
    | late some_left early idle none_due =>
      exact ⟨marks, .late (under.look looked some_left early) idle seen none_due, short'⟩

/-- Without any time, the first look of the driver is its last. -/
theorem rounds_of_no_time (no_time : Tick.after 0 config.timeout = 0) :
    Run.rounds config (participants.map (·.name)) (Run.opened participants stage).budget
        (Watch.start config 0, Run.opened participants stage) =
      (Watch.start config 0, Run.opened participants stage) := by
  have late : (Watch.start config 0).deadline ≤ (Run.opened participants stage).now := by
    rw [Watch.start, no_time]
    exact Nat.zero_le _
  have course : Run.course (Watch.start config 0) (Run.opened participants stage) =
      .over (Run.opened participants stage).now := by
    rw [Run.course, if_pos (by simp [late])]
  have looked : (Run.opened participants stage).observeAll config (participants.map (·.name))
      (Watch.start config 0) = (Watch.start config 0, Run.opened participants stage) := rfl
  rw [Run.budget, Run.rounds, looked]
  dsimp only
  rw [course]

/-- All rounds of the driver, from the beginning on. -/
def drivenRounds (config : Config) (participants : List Participant) (stage : Stage) :
    Watch × Run :=
  Run.rounds config (participants.map (·.name)) (Run.opened participants stage).budget
    (Watch.start config 0, Run.opened participants stage)

/-- What the driver hands out is what its rounds come to. -/
theorem drive_eq_concluded (config : Config) (stage : Stage) (enough : 2 ≤ participants.length) :
    drive config participants stage = concluded config participants
      (drivenRounds config participants stage).1 (drivenRounds config participants stage).2 := by
  unfold drive
  rw [if_neg (by omega)]
  rfl

theorem over_drivenRounds (h : stage.Reached) (config : Config)
    (participants : List Participant) : ∃ marks,
      Over config participants stage marks (drivenRounds config participants stage).1
        (drivenRounds config participants stage).2 ∧
      Short marks (drivenRounds config participants stage).1 := by
  rcases Nat.eq_zero_or_pos (Tick.after 0 config.timeout) with no_time | some_time
  · rw [drivenRounds, rounds_of_no_time no_time]
    exact ⟨[], .unopened no_time, by simp [Short]⟩
  · have awake : ∀ t ∈ (Run.opened participants stage).tasks,
        t.phase.asleep (Run.opened participants stage).now = 0 := by
      intro t ht
      obtain ⟨p, -, rfl⟩ := List.mem_map.mp ht
      rfl
    have opened : Underway config participants stage [] (Watch.start config 0)
        (Run.opened participants stage) := .opened some_time
    exact over_rounds h opened (by simp [Short]) (Run.rest_lt_budget awake)

/-- **The driver** that runs is one of those that are possible, and it lets no sleeper go first at
the deadline. -/
theorem drive_possible (h : stage.Reached) (config : Config) (enough : 2 ≤ participants.length) :
    ∃ marks w r, Over config participants stage marks w r ∧ Short marks w ∧
      drive config participants stage = concluded config participants w r := by
  obtain ⟨marks, atEnd, short⟩ := over_drivenRounds h config participants
  exact ⟨marks, _, _, atEnd, short, drive_eq_concluded config stage enough⟩

end

/-! ## What a driven run leaves behind -/

/-- Who is ready does not matter to a participant that is taken out of its queue. -/
theorem withdraw_ready (t : Task) (i : Nat) (w : World) (ready : List Waiter) :
    ∃ ready', t.withdraw i { w with ready } = { t.withdraw i w with ready := ready' } := by
  unfold Task.withdraw
  split
  · exact ⟨_, rfl⟩
  · exact ⟨ready, rfl⟩

/-- All these participants are taken out of their queues. -/
def withdrawAll (ps : List (Task × Nat)) (w : World) : World :=
  ps.foldl (fun w p => p.1.withdraw p.2 w) w

theorem withdrawAll_ready (ps : List (Task × Nat)) (w : World) (ready : List Waiter) :
    ∃ ready', withdrawAll ps { w with ready } = { withdrawAll ps w with ready := ready' } := by
  induction ps generalizing w ready with
  | nil => exact ⟨ready, rfl⟩
  | cons p ps ih =>
    obtain ⟨ready', first⟩ := withdraw_ready p.1 p.2 w ready
    obtain ⟨ready'', others⟩ := ih (p.1.withdraw p.2 w) ready'
    refine ⟨ready'', ?_⟩
    rw [withdrawAll, List.foldl_cons, first]
    exact others

/-- Aborting comes down to dropping one participant after the other. -/
theorem steps_withdrawAll (ps : List (Task × Nat)) (r : Run)
    (tasks : ∀ p ∈ ps, r.tasks[p.2]? = some p.1) (once : (ps.map Prod.snd).Nodup) :
    ∃ r', Relation.ReflTransGen Run.Step r r' ∧
      (∃ ready, r'.stage =
        { r.stage with world := { withdrawAll ps r.stage.world with ready } }) ∧
      (∀ p ∈ ps, r'.tasks[p.2]? = some { p.1 with phase := .ended (.ok ()) }) ∧
      ∀ j, j ∉ ps.map Prod.snd → r'.tasks[j]? = r.tasks[j]? := by
  induction ps generalizing r with
  | nil => exact ⟨r, .refl, ⟨r.stage.world.ready, rfl⟩, by simp, fun _ _ => rfl⟩
  | cons p ps ih =>
    obtain ⟨t, i⟩ := p
    obtain ⟨new, once⟩ := List.nodup_cons.mp once
    have ht : r.tasks[i]? = some t := tasks (t, i) (List.mem_cons_self ..)
    have inside : i < r.tasks.length := (List.getElem?_eq_some_iff.mp ht).1
    have dropped : r.drop i (.ok ()) =
        { r.mapWorld fun w => { t.withdraw i w with ready := (t.withdraw i w).ready.erase i } with
          tasks := r.tasks.set i { t with phase := .ended (.ok ()) } } := by
      rw [Run.drop, ht]
    obtain ⟨r', steps, ⟨ready, stage⟩, ended, others⟩ := ih (r.drop i (.ok ())) (fun p hp => by
      have apart : i ≠ p.2 := fun he => new (List.mem_map.mpr ⟨p, hp, he.symm⟩)
      rw [dropped]
      show (r.tasks.set i _)[p.2]? = _
      rw [List.getElem?_set_ne apart]
      exact tasks p (List.mem_cons_of_mem _ hp)) once
    -- The later drops do not touch this participant again, as the indices are distinct.
    have own : r'.tasks[i]? = some { t with phase := .ended (.ok ()) } := by
      rw [others i new, dropped]
      exact List.getElem?_set_self inside
    refine ⟨r', .head (.drop i (.ok ())) steps, ?_, fun p hp => ?_, fun j hj => ?_⟩
    · obtain ⟨ready', same⟩ := withdrawAll_ready ps (t.withdraw i r.stage.world)
        ((t.withdraw i r.stage.world).ready.erase i)
      refine ⟨ready, ?_⟩
      rw [stage, dropped]
      show ({ r.stage with world := _ } : Stage) = _
      rw [show withdrawAll ((t, i) :: ps) r.stage.world =
        withdrawAll ps (t.withdraw i r.stage.world) from rfl]
      simp only [Run.mapWorld, same]
    · rcases List.mem_cons.mp hp with rfl | hp
      · exact own
      · exact ended p hp
    · obtain ⟨hi, hj⟩ := not_or.mp (mt List.mem_cons.mpr hj)
      rw [others j hj, dropped]
      exact List.getElem?_set_ne (Ne.symm hi)

/-- Once a run is aborted, all its participants have ended where they were. -/
theorem Run.Reached.aborted (h : r.Reached) : ∃ r' : Run, r'.Reached ∧
    r'.stage = r.abort.stage ∧
    r'.tasks = r.tasks.map fun t => { t with phase := .ended (.ok ()) } := by
  obtain ⟨r', steps, ⟨ready, stage⟩, ended, others⟩ := steps_withdrawAll r.tasks.zipIdx r
    (fun p hp => List.mem_zipIdx_iff_getElem?.mp hp)
    (nodup_zipIdx r.tasks)
  have reached := h.trans steps
  have tasks : r'.tasks = r.tasks.map fun t => { t with phase := .ended (.ok ()) } := by
    refine List.ext_getElem? fun i => ?_
    rw [List.getElem?_map]
    cases before : r.tasks[i]? with
    | some t => exact ended (t, i) (List.mem_zipIdx_iff_getElem?.mpr before)
    | none =>
      refine (others i fun hm => ?_).trans before
      obtain ⟨p, hp, rfl⟩ := List.mem_map.mp hm
      rw [List.mem_zipIdx_iff_getElem?.mp hp] at before
      cases before
  refine ⟨r', reached, ?_, tasks⟩
  have idle := reached.sound.ready_of_over (by simp [tasks, Task.isEnded])
  have nobody : ready = [] := by
    rw [Run.ready, stage] at idle
    exact idle
  rw [stage, nobody]
  rfl

/-- A run that was reached may be aborted, and leaves a reached stage. -/
theorem Run.Reached.abort (h : r.Reached) : r.abort.stage.Reached := by
  obtain ⟨r', reached, same, tasks⟩ := h.aborted
  exact same ▸ .of_over reached (by simp [tasks, Task.isEnded])

theorem ofDriver_closing (w : Watch) (config : Config) (names : List String) :
    ∀ e ∈ w.closing config names, e.OfDriver := by
  intro e he
  rcases List.mem_append.mp he with he | he
  · rcases List.mem_append.mp he with he | he
    · split at he
      · cases he
      · cases List.mem_singleton.mp he
        trivial
    · obtain ⟨failure, -, rfl⟩ := List.mem_map.mp he
      trivial
  · split at he
    · cases List.mem_singleton.mp he
      trivial
    · cases he

theorem plain_closing (w : Watch) (config : Config) (names : List String) :
    ∀ e ∈ w.closing config names, e.IsPlain :=
  fun e he => (ofDriver_closing w config names e he).plain

/-- Aborting those who wait, and closing the log, moves no message. -/
theorem still_concluded (config : Config) (participants : List Participant) (w : Watch) (r : Run) :
    r.stage.world.Still (concluded config participants w r).2.world := by
  have withdrawn : ∀ (ps : List (Task × Nat)) (world : World),
      world.Still (withdrawAll ps world) := by
    intro ps
    induction ps with
    | nil => exact fun world => .refl world
    | cons p ps ih => exact fun world => (Run.still_withdrawn p.1 p.2 world).trans (ih _)
  have aborted := (withdrawn r.tasks.zipIdx r.stage.world).trans (World.still_ready _ [])
  exact aborted.trans (Run.quiet_notes (plain_closing w config _) _).still

section
variable [Clock]

/-- A driven run that is over leaves a reached stage. -/
theorem Over.reached_concluded (atEnd : Over config participants stage marks w r)
    (h : stage.Reached) : (concluded config participants w r).2.Reached := by
  obtain ⟨now, reached⟩ := atEnd.reached h
  have aborted : r.abort.stage.Reached := reached.abort
  have noted : (r.abort.mapWorld fun world =>
      (w.closing config (participants.map (·.name))).foldl World.note world).stage.Reached :=
    Relation.ReflTransGen.trans aborted
      (Run.steps_notes _ (plain_closing w config (participants.map (·.name))))
  exact noted.report _

/-- Driving participants leaves a reached stage. -/
theorem Stage.Reached.driven (h : stage.Reached) (config : Config)
    (participants : List Participant) : (drive config participants stage).2.Reached := by
  by_cases few : participants.length < 2
  · unfold drive
    rw [if_pos few]
    exact h.report _
  · obtain ⟨marks, w, r, atEnd, -, same⟩ := drive_possible h config (Nat.le_of_not_lt few)
    rw [same]
    exact atEnd.reached_concluded h

/-- **Every step of a scenario** leaves a reached stage. -/
theorem Stage.Reached.run (h : stage.Reached) (step : Step) : (step.run stage).2.Reached := by
  cases step with
  | command c => exact h.command c 0
  | drive cast => exact h.driven cast.config cast.participants

end

end Rehearsal
