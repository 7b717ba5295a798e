import Rehearsal.Proofs.Drive.Rounds

/-!
# Runs that differ in their past

What holds of commands holds of everything else that happens on a stage: a body takes the same turns
on alike stages, a driver sees the same of them, and steps of a scenario come to the same. So it is
for every order of turns.
-/

namespace Rehearsal

variable {before before' : List Event} {stage stage' : Stage}

/-! ## Turns of a body -/

theorem Action.blind_receiving (me : Waiter) (r : Reception) :
    Play.IsBlind (Action.receiving me r) := by
  intro before before' stage stage' alike
  obtain ⟨same, after⟩ := r.alike_look me (r.alike_start alike.world)
  unfold Action.receiving
  -- Each look gives way to what it found and the world that it left; what they found is the same.
  revert same after
  rcases r.look me (r.start stage.world) with ⟨result, w⟩
  rcases r.look me (r.start stage'.world) with ⟨result', w'⟩
  rintro ⟨⟩ after
  rcases result with _ | _ | a
  · exact ⟨rfl, alike.mapWorld after⟩
  · exact ⟨rfl, alike.mapWorld after⟩
  · exact ⟨rfl, alike.mapWorld after⟩

theorem Action.blind_play (me : Waiter) (now : Tick) (a : Action) :
    Play.IsBlind (a.play me now) := by
  cases a with
  | command c => exact (c.blind_run me).bind fun _ => Play.blind_pure _
  | receive name k => exact (Play.blind_session name).bind fun _ => blind_receiving me _
  | relay name target k =>
    refine (Play.blind_session name).bind fun _ => ?_
    exact (Play.blind_session target).bind fun _ => blind_receiving me _
  | call flow input =>
    refine (Play.blind_call flow input).bind fun called => ?_
    cases called with
    | answered a => exact Play.blind_pure _
    | receives r => exact blind_receiving me r
  | sleep millis =>
    cases millis with
    | zero => exact Play.blind_pure _
    | succ n => exact Play.blind_pure _
  | pause =>
    have paused : Play.IsBlind (modify fun stage : Stage =>
        { stage with world := { stage.world with ready := stage.world.ready ++ [me] } }) :=
      fun _ _ => agrees_modify fun _ _ h => h.mapWorld <|
        h.world.change (f := fun w => { w with ready := w.ready ++ [me] }) fun _ _ _ => rfl
    exact paused.bind fun _ => Play.blind_pure _
  | fail e => exact Play.blind_throw _
  | panic payload => exact Play.blind_throw _

theorem Action.alike_start (me : Waiter) (now : Tick) (a : Action)
    (h : Stage.Alike before before' stage stage') :
    (a.start me now stage').1 = (a.start me now stage).1 ∧
      Stage.Alike before before' (a.start me now stage).2 (a.start me now stage').2 := by
  obtain ⟨same, after⟩ := a.blind_play me now before before' stage stage' h
  rw [start_eq, start_eq]
  revert same after
  rcases a.play me now stage with ⟨r, s⟩
  rcases a.play me now stage' with ⟨r', s'⟩
  rintro ⟨⟩ after
  cases r with
  | ok started => exact ⟨rfl, after⟩
  | error failure => exact ⟨rfl, after⟩

theorem Wait.alike_resume (me : Waiter) (wait : Wait)
    (h : Stage.Alike before before' stage stage') :
    (wait.resume me stage').1 = (wait.resume me stage).1 ∧
      Stage.Alike before before' (wait.resume me stage).2 (wait.resume me stage').2 := by
  cases wait with
  | message r =>
    obtain ⟨same, after⟩ := r.alike_look me (h.world.answerCall me r.session)
    unfold resume
    dsimp only
    revert same after
    rcases r.look me (stage.world.answerCall me r.session) with ⟨result, w⟩
    rcases r.look me (stage'.world.answerCall me r.session) with ⟨result', w'⟩
    rintro ⟨⟩ after
    rcases result with _ | _ | a
    · exact ⟨rfl, h.mapWorld after⟩
    · exact ⟨rfl, h.mapWorld after⟩
    · exact ⟨rfl, h.mapWorld after⟩
  | sleep due => exact ⟨rfl, h⟩
  | turn => exact ⟨rfl, h⟩

namespace Task

theorem alike_proceed (me : Waiter) (now : Tick) (script : List Line) (log : List Report)
    (h : Stage.Alike before before' stage stage') :
    (proceed me now script log stage').1 = (proceed me now script log stage).1 ∧
      Stage.Alike before before' (proceed me now script log stage).2
        (proceed me now script log stage').2 := by
  induction script generalizing log stage stage' with
  | nil => exact ⟨rfl, h⟩
  | cons line script ih =>
    obtain ⟨same, after⟩ := line.action.alike_start me now h
    rw [proceed, proceed]
    revert same after
    rcases line.action.start me now stage with ⟨started, s⟩
    rcases line.action.start me now stage' with ⟨started', s'⟩
    rintro ⟨⟩ after
    cases started with
    | waits wait => exact ⟨rfl, after⟩
    | ended report =>
      dsimp only
      rcases conclude log line.tolerant report with ⟨log', _ | result⟩
      · exact ih log' after
      · exact ⟨rfl, after⟩

theorem alike_goOn (me : Waiter) (now : Tick) (t : Task) (tolerant : Bool) (report : Report)
    (h : Stage.Alike before before' stage stage') :
    (t.goOn me now tolerant report stage').1 = (t.goOn me now tolerant report stage).1 ∧
      Stage.Alike before before' (t.goOn me now tolerant report stage).2
        (t.goOn me now tolerant report stage').2 := by
  rw [goOn, goOn]
  rcases conclude t.log tolerant report with ⟨log, _ | result⟩
  · exact alike_proceed me now t.script log h
  · exact ⟨rfl, h⟩

theorem alike_poll (me : Waiter) (now : Tick) (t : Task)
    (h : Stage.Alike before before' stage stage') :
    (t.poll me now stage').1 = (t.poll me now stage).1 ∧
      Stage.Alike before before' (t.poll me now stage).2 (t.poll me now stage').2 := by
  cases phase : t.phase with
  | unstarted =>
    rw [poll_unstarted phase, poll_unstarted phase]
    exact alike_proceed me now t.script t.log h
  | waiting wait tolerant =>
    obtain ⟨same, after⟩ := wait.alike_resume me h
    rw [poll_waiting phase, poll_waiting phase]
    revert same after
    rcases wait.resume me stage with ⟨report, s⟩
    rcases wait.resume me stage' with ⟨report', s'⟩
    rintro ⟨⟩ after
    cases report with
    | none => exact ⟨rfl, after⟩
    | some report => exact alike_goOn me now t tolerant report after
  | ended result =>
    rw [poll, poll, phase]
    exact ⟨rfl, h⟩

theorem alike_withdraw (t : Task) (me : Waiter) {w w' : World}
    (h : World.Alike before before' w w') :
    World.Alike before before' (t.withdraw me w) (t.withdraw me w') := by
  unfold withdraw
  split
  · exact h.withdraw me _
  · exact h

end Task

/-! ## Runs -/

/-- Two runs that are the same but for their stages, which are alike. -/
structure Run.Alike (before before' : List Event) (r r' : Run) : Prop where
  rest : r' = { r with stage := r'.stage }
  stage : Stage.Alike before before' r.stage r'.stage

namespace Run.Alike

variable {r r' : Run}

theorem tasks (h : Alike before before' r r') : r'.tasks = r.tasks := by rw [h.rest]

theorem now (h : Alike before before' r r') : r'.now = r.now := by rw [h.rest]

theorem ended (h : Alike before before' r r') : r'.ended = r.ended := by rw [h.rest]

theorem ready (h : Alike before before' r r') : r'.ready = r.ready := h.stage.world.ready

theorem mapWorld (h : Alike before before' r r') {f g : World → World}
    (alike : World.Alike before before' (f r.stage.world) (g r'.stage.world)) :
    Alike before before' (r.mapWorld f) (r'.mapWorld g) := by
  refine ⟨?_, h.stage.mapWorld alike⟩
  rw [Run.mapWorld, h.rest]
  rfl

/-- Who is ready changes in the same way. -/
theorem mapReady (h : Alike before before' r r') (f : List Waiter → List Waiter) :
    Alike before before' (r.mapWorld fun w => { w with ready := f w.ready })
      (r'.mapWorld fun w => { w with ready := f w.ready }) :=
  h.mapWorld (h.stage.world.change (f := fun w => { w with ready := f w.ready }) fun _ _ _ => rfl)

theorem note (h : Alike before before' r r') (e : Event) :
    Alike before before' (r.mapWorld (·.note e)) (r'.mapWorld (·.note e)) :=
  h.mapWorld (h.stage.world.note e)

theorem notes (h : Alike before before' r r') (events : List Event) :
    Alike before before' (r.mapWorld fun w => events.foldl World.note w)
      (r'.mapWorld fun w => events.foldl World.note w) := by
  induction events generalizing r r' with
  | nil => exact h
  | cons e events ih => exact ih (h.note e)

theorem opened (participants : List Participant) (h : Stage.Alike before before' stage stage') :
    Alike before before' (Run.opened participants stage) (Run.opened participants stage') := by
  have started : Alike before before' (Run.start participants stage)
      (Run.start participants stage') := by
    refine ⟨rfl, h.mapWorld ?_⟩
    exact h.world.change
      (f := fun w => { w with ready := List.range participants.length }) fun _ _ _ => rfl
  rw [Run.opened_eq, Run.opened_eq]
  exact started.notes _

theorem poll (h : Alike before before' r r') (i : Nat) :
    Alike before before' (r.poll i) (r'.poll i) := by
  unfold Run.poll
  rw [h.tasks]
  cases r.tasks[i]? with
  | none => exact h
  | some t =>
    obtain ⟨same, after⟩ := t.alike_poll i r.now h.stage
    dsimp only
    rw [h.now, h.ended, same]
    exact ⟨rfl, after⟩

/-- A turn leaves alike runs alike. -/
theorem turn (h : Alike before before' r r') (i : Nat) :
    Alike before before' (r.turn i) (r'.turn i) :=
  (h.mapReady fun ready => ready.erase i).poll i

theorem drain (h : Alike before before' r r') (fuel : Nat) :
    Alike before before' (r.drain fuel) (r'.drain fuel) := by
  induction fuel generalizing r r' with
  | zero => exact h
  | succ fuel ih =>
    rw [Run.drain, Run.drain, h.ready]
    cases r.ready with
    | nil => exact h
    | cons i rest => exact ih (h.turn i)

theorem remaining (h : Alike before before' r r') : r'.remaining = r.remaining := by
  rw [Run.remaining, h.tasks]
  rfl

theorem turns (h : Alike before before' r r') : r'.turns = r.turns := by
  rw [Run.turns, h.remaining, h.tasks, h.ready]
  rfl

theorem nextDue? (h : Alike before before' r r') : r'.nextDue? = r.nextDue? := by
  rw [Run.nextDue?, h.tasks]
  rfl

/-- The clock moves alike. -/
theorem advance (h : Alike before before' r r') (due : Tick) :
    Alike before before' (r.advance due) (r'.advance due) := by
  have woken := h.mapReady fun ready => ready ++
    (r.tasks.zipIdx.filter fun p => p.1.due? == some due).map (·.2)
  unfold Run.advance
  rw [h.tasks]
  refine ⟨?_, woken.stage⟩
  dsimp only
  rw [woken.rest]

theorem settles (h : Alike before before' r r') (i : Nat) : r'.settles i = r.settles i := by
  rw [Run.settles, (h.turn i).tasks, h.now]
  rfl

theorem abort (h : Alike before before' r r') : Alike before before' r.abort r'.abort := by
  have withdrawn : ∀ (ps : List (Task × Nat)) (w w' : World), World.Alike before before' w w' →
      World.Alike before before' (ps.foldl (fun w p => p.1.withdraw p.2 w) w)
        (ps.foldl (fun w p => p.1.withdraw p.2 w) w') := by
    intro ps
    induction ps with
    | nil => exact fun w w' h => h
    | cons p ps ih => exact fun w w' h => ih _ _ (p.1.alike_withdraw p.2 h)
  unfold Run.abort
  rw [h.tasks]
  exact (h.mapWorld (withdrawn r.tasks.zipIdx _ _ h.stage.world)).mapReady fun _ => []

/-- Alike runs are concluded alike. -/
theorem concluded (config : Config) (h : Alike before before' r r')
    (participants : List Participant) (w : Watch) :
    (Rehearsal.concluded config participants w r').1 =
        (Rehearsal.concluded config participants w r).1 ∧
      Stage.Alike before before' (Rehearsal.concluded config participants w r).2
        (Rehearsal.concluded config participants w r').2 := by
  have closed := h.abort.notes (w.closing config (participants.map (·.name)))
  unfold Rehearsal.concluded
  dsimp only
  refine ⟨?_, closed.stage.change (f := fun stage => { stage with
    lastRun := some (w.verdict config (participants.map (·.name))) }) fun _ _ => rfl⟩
  rw [closed.tasks, closed.now]

/-! ## Drivers -/

theorem course (h : Alike before before' r r') (w : Watch) : Run.course w r' = Run.course w r := by
  unfold Run.course
  rw [h.tasks, h.now, h.ready, h.nextDue?]

variable [Clock]

/-- A driver sees the same in both runs. -/
theorem observe (config : Config) (names : List String) (h : Alike before before' r r') (w : Watch)
    (i : Nat) :
    (Run.observe config names (w, r') i).1 = (Run.observe config names (w, r) i).1 ∧
      Alike before before' (Run.observe config names (w, r) i).2
        (Run.observe config names (w, r') i).2 := by
  unfold Run.observe
  dsimp only
  rw [h.tasks, h.now]
  split
  · exact ⟨rfl, h.note _⟩
  · exact ⟨rfl, h⟩

theorem observeAll (config : Config) (names : List String) (h : Alike before before' r r')
    (w : Watch) :
    (r'.observeAll config names w).1 = (r.observeAll config names w).1 ∧
      Alike before before' (r.observeAll config names w).2
        (r'.observeAll config names w).2 := by
  have fold : ∀ (indices : List Nat) (w : Watch) (r r' : Run), Alike before before' r r' →
      (indices.foldl (Run.observe config names) (w, r')).1 =
        (indices.foldl (Run.observe config names) (w, r)).1 ∧
      Alike before before' (indices.foldl (Run.observe config names) (w, r)).2
        (indices.foldl (Run.observe config names) (w, r')).2 := by
    intro indices
    induction indices with
    | nil => exact fun w r r' h => ⟨rfl, h⟩
    | cons i indices ih =>
      intro w r r' h
      obtain ⟨same, after⟩ := h.observe config names w i
      rw [List.foldl_cons, List.foldl_cons]
      revert same after
      rcases Run.observe config names (w, r) i with ⟨w₁, r₁⟩
      rcases Run.observe config names (w, r') i with ⟨w₁', r₁'⟩
      rintro ⟨⟩ after
      exact ih w₁ r₁ r₁' after
  unfold Run.observeAll
  rw [h.ended]
  refine fold r.ended w _ _ ⟨?_, h.stage⟩
  rw [h.rest]

/-- A look at one run is a look at the other. -/
theorem looked {config : Config} {names : List String} (h : Alike before before' r r')
    {w w' : Watch} {last : Run}
    (looked : r.observeAll config names w = (w', last)) :
    ∃ last', r'.observeAll config names w = (w', last') ∧ Alike before before' last last' := by
  obtain ⟨same, after⟩ := h.observeAll config names w
  rw [looked] at same after
  exact ⟨(r'.observeAll config names w).2, Prod.ext same rfl, after⟩

theorem rounds (config : Config) (names : List String) (h : Alike before before' r r')
    (fuel : Nat) (w : Watch) :
    (Run.rounds config names fuel (w, r')).1 = (Run.rounds config names fuel (w, r)).1 ∧
      Alike before before' (Run.rounds config names fuel (w, r)).2
        (Run.rounds config names fuel (w, r')).2 := by
  induction fuel generalizing w r r' with
  | zero => exact ⟨rfl, h⟩
  | succ fuel ih =>
    obtain ⟨same, after⟩ := h.observeAll config names w
    rw [Run.rounds, Run.rounds]
    revert same after
    rcases r.observeAll config names w with ⟨w₁, r₁⟩
    rcases r'.observeAll config names w with ⟨w₁', r₁'⟩
    rintro ⟨⟩ after
    dsimp only
    rw [after.course w₁]
    rcases Run.course w₁ r₁ with now | _ | due
    · have rest : r₁' = { r₁ with stage := r₁'.stage } := after.rest
      refine ⟨rfl, ?_, after.stage⟩
      dsimp only
      rw [rest]
    · dsimp only
      rw [after.turns]
      exact ih (after.drain _) w₁
    · exact ih (after.advance due) w₁

end Run.Alike

theorem Stage.Alike.symm (h : Stage.Alike before before' stage stage') :
    Stage.Alike before' before stage' stage := by
  obtain ⟨events, log, log'⟩ := h.world.log
  refine ⟨?_, ?_, fun q => ?_, events, log', log⟩
  · rw [h.rest]
  · rw [h.world.rest]
  · have same := h.world.queues q
    unfold Queue.Alike at same ⊢
    rw [same]

/-- Alike stages are alike with regard to what is logged from now on. -/
theorem Stage.Alike.fromNow (h : Stage.Alike before before' stage stage') :
    Stage.Alike stage.world.log stage'.world.log stage stage' :=
  ⟨h.rest, h.world.rest, h.world.queues, [], by simp⟩

variable [Clock]

variable {config : Config} {participants : List Participant} {marks : List Mark} {w : Watch}
  {r : Run}

/-- Whatever can happen in a driven run can happen on an alike stage. -/
theorem Underway.alike (under : Underway config participants stage marks w r)
    (h : Stage.Alike before before' stage stage') :
    ∃ r', Underway config participants stage' marks w r' ∧ Run.Alike before before' r r' := by
  induction under with
  | opened some_time => exact ⟨_, .opened some_time, .opened participants h⟩
  | turn _ ready ih =>
    obtain ⟨r', under', alike⟩ := ih
    refine ⟨_, ?_, alike.turn _⟩
    rw [← alike.settles]
    exact under'.turn (alike.ready ▸ ready)
  | look _ looked some_left early ih =>
    obtain ⟨r', under', alike⟩ := ih
    obtain ⟨last', looked', after⟩ := alike.looked looked
    refine ⟨last', under'.look looked' ?_ ?_, after⟩
    · rw [after.tasks]
      exact some_left
    · rw [after.now]
      exact early
  | sleep _ idle seen next early ih =>
    obtain ⟨r', under', alike⟩ := ih
    refine ⟨_, under'.sleep ?_ ?_ ?_ early, alike.advance _⟩
    · exact alike.ready.trans idle
    · exact alike.ended.trans seen
    · exact alike.nextDue?.trans next

/-- However a driven run ends, it can end so on an alike stage. -/
theorem Over.alike (atEnd : Over config participants stage marks w r)
    (h : Stage.Alike before before' stage stage') :
    ∃ r', Over config participants stage' marks w r' ∧ Run.Alike before before' r r' := by
  cases atEnd with
  | unopened no_time => exact ⟨_, .unopened no_time, .opened participants h⟩
  | looked under looked atEnd =>
    obtain ⟨r', under', alike⟩ := under.alike h
    obtain ⟨last', looked', after⟩ := alike.looked looked
    refine ⟨last', .looked under' looked' ?_, after⟩
    rw [after.tasks, after.now]
    exact atEnd
  | late under idle seen none_due =>
    obtain ⟨r', under', alike⟩ := under.alike h
    refine ⟨_, .late under' (alike.ready.trans idle) (alike.ended.trans seen) ?_, ?_, alike.stage⟩
    · rw [alike.nextDue?]
      exact none_due
    · dsimp only
      rw [alike.rest]

/-- Driving comes to the same on alike stages. -/
theorem Stage.Alike.drive (h : Stage.Alike before before' stage stage') (config : Config)
    (participants : List Participant) :
    (Rehearsal.drive config participants stage').1 =
        (Rehearsal.drive config participants stage).1 ∧
      Stage.Alike before before' (Rehearsal.drive config participants stage).2
        (Rehearsal.drive config participants stage').2 := by
  by_cases few : participants.length < 2
  · unfold Rehearsal.drive
    rw [if_pos few, if_pos few]
    exact ⟨rfl, h.change (f := fun stage => { stage with
      lastRun := some (tooFew participants).result }) fun _ _ => rfl⟩
  · have same : ∀ stage, Rehearsal.drive config participants stage =
        concluded config participants
          (Run.rounds config (participants.map (·.name)) (Run.opened participants stage).budget
            (Watch.start config 0, Run.opened participants stage)).1
          (Run.rounds config (participants.map (·.name)) (Run.opened participants stage).budget
            (Watch.start config 0, Run.opened participants stage)).2 := fun stage => by
      unfold Rehearsal.drive
      rw [if_neg few]
      rfl
    have opened := Run.Alike.opened participants h
    have budget : (Run.opened participants stage').budget =
        (Run.opened participants stage).budget := by
      rw [Run.budget, opened.remaining]
      rfl
    obtain ⟨watch, after⟩ := opened.rounds config (participants.map (·.name))
      (Run.opened participants stage).budget (Watch.start config 0)
    rw [same, same, budget, watch]
    exact after.concluded config participants _

/-! ## Scenarios -/

/-- A step comes to the same on alike stages. -/
theorem Stage.Alike.run (h : Stage.Alike before before' stage stage') (step : Step) :
    (step.run stage').1 = (step.run stage).1 ∧
      Stage.Alike before before' (step.run stage).2 (step.run stage').2 := by
  cases step with
  | command c =>
    obtain ⟨same, after⟩ := c.blind_run 0 before before' stage stage' h
    exact ⟨congrArg Outcome.report same, after⟩
  | drive cast =>
    obtain ⟨same, after⟩ := h.drive cast.config cast.participants
    exact ⟨congrArg (Outcome.driven cast.shownConfig) same, after⟩

/-- **All later steps come to the same** on alike stages, and log the same. -/
theorem Stage.Alike.runSteps (h : Stage.Alike before before' stage stage') (steps : List Step) :
    Rehearsal.runSteps stage' steps = Rehearsal.runSteps stage steps := by
  induction steps generalizing before before' stage stage' with
  | nil => rfl
  | cons step steps ih =>
    obtain ⟨same, after⟩ := h.fromNow.run step
    obtain ⟨events, log, log'⟩ := after.world.log
    have rest := ih after
    rw [Rehearsal.runSteps, Rehearsal.runSteps]
    revert same log log' rest
    rcases step.run stage with ⟨outcome, last⟩
    rcases step.run stage' with ⟨outcome', last'⟩
    rintro ⟨⟩ log log' rest
    dsimp only at log log' rest ⊢
    -- Each log is what it was before and the same events.
    rw [log, log', List.drop_left, List.drop_left, rest]

end Rehearsal
