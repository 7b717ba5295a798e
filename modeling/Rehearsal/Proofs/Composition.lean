import Rehearsal.Proofs.Alike.Runs
import Rehearsal.Proofs.Wakeups

/-!
# Runs compose

What a driven run leaves behind are names, mocks, and messages in queues: nobody is at work any
more, and whoever was aborted takes no further step. So all later steps come to what they would come
to if only the mocks and the messages had been there from the start, whatever permits are left and
in whatever order turns are taken.
-/

namespace Rehearsal

variable {config : Config} {participants : List Participant} {stage stage' : Stage}
  {marks : List Mark} {w : Watch} {r r' : Run} {i : Nat}

/-! ## Whoever was aborted -/

namespace Run

/-- Something happens, and nobody is forgotten. -/
def Goes (r r' : Run) : Prop := Step r r' ∧ r.tasks.length ≤ r'.tasks.length

/-- A participant that is over with this much of its script left and this log. It cannot take a
turn, and no queue knows of it. -/
structure Retired (r : Run) (i : Nat) (script : List Line) (log : List Report) : Prop where
  task : ∃ result, r.tasks[i]? = some { script, phase := .ended result, log }
  unready : i ∉ r.ready
  absent : ∀ q, i ∉ (r.stage.world.queue q).parked ∧ i ∉ (r.stage.world.queue q).called

variable {script : List Line} {log : List Report}

/-- Whoever has ended is nowhere. -/
theorem Sound.retired (h : r.Sound)
    (task : ∃ result, r.tasks[i]? = some { script, phase := .ended result, log }) :
    r.Retired i script log := by
  obtain ⟨result, ht⟩ := task
  have away : r.place i = .away := by
    rw [place_of_task ht]
    rfl
  refine ⟨⟨result, ht⟩, h.places.not_ready_of_away away, fun q => ?_⟩
  have elsewhere : i ∉ (r.stage.world.queue q).parked ++ (r.stage.world.queue q).called := by
    rw [(h.places.hosts q).mem i, away]
    simp
  simpa [not_or] using elsewhere

/-- Whatever happens, whoever has ended does nothing more. -/
theorem task_of_goes (goes : r.Goes r') (h : r.Sound)
    (task : ∃ result, r.tasks[i]? = some { script, phase := .ended result, log }) :
    ∃ result, r'.tasks[i]? = some { script, phase := .ended result, log } := by
  obtain ⟨step, remembered⟩ := goes
  obtain ⟨result, ht⟩ := task
  have inside : i < r.tasks.length := (List.getElem?_eq_some_iff.mp ht).1
  cases step with
  | command c => exact ⟨result, ht⟩
  | join participants =>
    refine ⟨result, ?_⟩
    show (r.tasks ++ _)[i]? = _
    rw [List.getElem?_append_left inside, ht]
  | @turn j ready =>
    obtain ⟨t, t', stage, took⟩ := h.took ready
    have apart : i ≠ j := by
      rintro rfl
      exact (h.retired ⟨result, ht⟩).unready ready
    exact ⟨result, (took.others apart).trans ht⟩
  | pass => exact ⟨result, ht⟩
  | drop j result' =>
    cases hj : r.tasks[j]? with
    | none => exact ⟨result, by rw [drop_of_none hj, ht]⟩
    | some t =>
      have tasks : (r.drop j result').tasks =
          r.tasks.set j { t with phase := .ended result' } := by
        rw [drop, hj]
      by_cases same : i = j
      · subst same
        rw [ht] at hj
        cases hj
        exact ⟨result', by rw [tasks, List.getElem?_set_self inside]⟩
      · exact ⟨result, by rw [tasks, List.getElem?_set_ne (Ne.symm same), ht]⟩
  | note => exact ⟨result, ht⟩
  | looked => exact ⟨result, ht⟩
  | report => exact ⟨result, ht⟩
  | clear allEnded =>
    -- Whoever is cleared away would be forgotten.
    exact absurd (Nat.lt_of_lt_of_le inside remembered) (Nat.not_lt_zero i)

/-- Whoever has ended never takes a step again. -/
theorem Sound.retired_of_goes (h : r.Sound) (history : Relation.ReflTransGen Goes r r')
    (task : ∃ result, r.tasks[i]? = some { script, phase := .ended result, log }) :
    r'.Retired i script log := by
  have kept : r'.Sound ∧ ∃ result, r'.tasks[i]? = some { script, phase := .ended result, log } := by
    induction history with
    | refl => exact ⟨h, task⟩
    | tail _ goes ih => exact ⟨(goes.1.sound ih.1).1, task_of_goes goes ih.1 ih.2⟩
  exact kept.1.retired kept.2

end Run

/-! ## Deserted stages -/

namespace World

/-- Nobody is at work. -/
structure Deserted (w : World) : Prop where
  ready : w.ready = []
  parked : ∀ q, (w.queue q).parked = []
  called : ∀ q, (w.queue q).called = []

/-- Two worlds with the same mocks, and with the same messages in their queues. -/
structure Matches (w w' : World) : Prop where
  rest : w' = { w with queues := w'.queues, ready := w'.ready, log := w'.log }
  envelopes : ∀ q, (w'.queue q).envelopes = (w.queue q).envelopes
  nextSequence : ∀ q, (w'.queue q).nextSequence = (w.queue q).nextSequence

/-- If nobody is at work, mocks and messages are all that counts. -/
theorem Matches.alike {w w' : World} (h : w.Matches w') (deserted : w.Deserted)
    (deserted' : w'.Deserted) : Alike w.log w'.log w w' := by
  refine ⟨?_, fun q => ?_, [], by simp⟩
  · have ready : w'.ready = w.ready := deserted'.ready.trans deserted.ready.symm
    exact h.rest.trans (by rw [ready])
  · have parked := (deserted'.parked q).trans (deserted.parked q).symm
    have called := (deserted'.called q).trans (deserted.called q).symm
    have envelopes := h.envelopes q
    have nextSequence := h.nextSequence q
    -- Only the permits are left, and they may differ.
    revert parked called envelopes nextSequence
    rcases w.queue q with ⟨es, n, permit, ps, cs⟩
    rcases w'.queue q with ⟨es', n', permit', ps', cs'⟩
    rintro ⟨⟩ ⟨⟩ ⟨⟩ ⟨⟩
    rfl

end World

/-- Two stages with the same names, mocks and messages. -/
structure Stage.Matches (stage stage' : Stage) : Prop where
  rest : stage' = { stage with world := stage'.world }
  world : stage.world.Matches stage'.world

/-- On a reached stage nobody is at work. -/
theorem Stage.Reached.deserted (h : stage.Reached) : stage.world.Deserted := by
  have nobody : ∀ q (j : Waiter), j ∉ (stage.world.queue q).parked ++
      (stage.world.queue q).called := fun q j there => by
    have listens := ((h.sound.places.hosts q).mem j).mp there
    simp [Run.place] at listens
  refine ⟨h.ready, fun q => ?_, fun q => ?_⟩
  · exact List.eq_nil_iff_forall_not_mem.mpr fun j hj => nobody q j (List.mem_append_left _ hj)
  · exact List.eq_nil_iff_forall_not_mem.mpr fun j hj => nobody q j (List.mem_append_right _ hj)

/-! ## Receiving what is there -/

/-- A look at a queue with messages takes the oldest. -/
theorem World.lookFor_of_cons {w : World} {s : Session} {e : Envelope} {rest : List Envelope}
    (queued : (w.queue s.inbound).envelopes = e :: rest) (me : Waiter) :
    ∃ w', w.lookFor me s = (some e, w') ∧ (w'.queue s.inbound).envelopes = rest := by
  obtain ⟨log, found⟩ := lookFor_cons queued me
  exact ⟨_, found, congrArg Queue.envelopes (Store.get_set_self ..)⟩

/-- What a receive comes to that gets this. -/
def Parcel.report (p : Parcel) (k : Kind) : Report :=
  match p.receive k with
  | .ok v => .ok (.text (k.shown v))
  | .error e => .error (.error e)

/-- A receive on a session with messages gets the oldest of them and does not wait. -/
theorem Action.receive_of_cons {name : String} {k : Kind} {s : Session} {e : Envelope}
    {rest : List Envelope} (named : stage.sessions.lookup name = some s)
    (queued : (stage.world.queue s.inbound).envelopes = e :: rest) (me : Waiter) (now : Tick) :
    ∃ last : Stage, (Action.receive name k).start me now stage =
        (.ended (e.parcel.report k), last) ∧
      (last.world.queue s.inbound).envelopes = rest := by
  have begun : (Reception.keep s k).start stage.world = stage.world := by
    show stage.world.awaitMessage s k = _
    rw [World.awaitMessage, Queue.isEmpty, queued]
    rfl
  obtain ⟨w', found, left⟩ := World.lookFor_of_cons queued me
  refine ⟨{ stage with world := w' }, ?_, left⟩
  have looked : ∃ taken, (Reception.keep s k).look me stage.world = (some taken, w') ∧
      e.parcel.report k = taken.mapError .error := by
    unfold Reception.look
    rw [show stage.world.lookFor me (Reception.keep s k).session = (some e, w') from found]
    unfold Parcel.report
    dsimp only [Reception.kind]
    cases e.parcel.receive k with
    | error fault => exact ⟨_, rfl, rfl⟩
    | ok v => exact ⟨_, rfl, rfl⟩
  obtain ⟨taken, looked, report⟩ := looked
  have resolved : Play.session name stage = (.ok s, stage) := by
    rw [Play.session, Play.resolve_apply, named]
  rw [start, play, bind_apply, resolved]
  dsimp only
  rw [receiving, begun, looked, report]
  cases taken with
  | ok a => rfl
  | error fault => rfl

/-! ## Steps in any order of turns -/

section
variable [Clock]

/-- A driven run that is over comes down to a run in which everybody has ended where they were. -/
theorem Over.ended (atEnd : Over config participants stage marks w r) (h : stage.Reached) :
    ∃ after : Run, after.Reached ∧ after.stage = (concluded config participants w r).2 ∧
      after.tasks = r.tasks.map fun t => { t with phase := .ended (.ok ()) } := by
  obtain ⟨now, reached⟩ := atEnd.reached h
  obtain ⟨r', reached', same, tasks⟩ := reached.aborted
  have noted := reached'.trans
    (Run.steps_notes r' (plain_closing w config (participants.map (·.name))))
  refine ⟨_, noted.step (.report (some (w.verdict config (participants.map (·.name))))), ?_, tasks⟩
  unfold concluded
  dsimp only [Run.mapWorld]
  rw [same]
  rfl

/-- What a step may come to: a driven run may end as turns in any order let it end. -/
inductive Step.Comes (stage : Stage) : Step → Outcome → Stage → Prop where
  | command (c : Command) : Comes stage (.command c) (.report (c.run 0 stage).1) (c.run 0 stage).2
  | tooFew {cast : Cast} (few : cast.participants.length < 2) :
    Comes stage (.drive cast) (.driven cast.shownConfig (tooFew cast.participants))
      { stage with lastRun := some (Rehearsal.tooFew cast.participants).result }
  | driven {cast : Cast} {marks : List Mark} {w : Watch} {r : Run}
      (enough : 2 ≤ cast.participants.length)
      (atEnd : Over cast.config cast.participants stage marks w r) :
    Comes stage (.drive cast)
      (.driven cast.shownConfig (concluded cast.config cast.participants w r).1)
      (concluded cast.config cast.participants w r).2

/-- What steps one after the other may come to, and what they log. -/
inductive Performs : Stage → List Step → List (Outcome × List LogLine) → Stage → Prop where
  | nothing {stage : Stage} : Performs stage [] [] stage
  | step {stage next last : Stage} {step : Step} {steps : List Step} {outcome : Outcome}
      {answers : List (Outcome × List LogLine)} (comes : step.Comes stage outcome next)
      (others : Performs next steps answers last) :
    Performs stage (step :: steps)
      ((outcome, (next.world.log.drop stage.world.log.length).map Event.line) :: answers) last

variable {step : Step} {outcome : Outcome} {next last : Stage}

theorem Step.Comes.reached (comes : step.Comes stage outcome next) (h : stage.Reached) :
    next.Reached := by
  cases comes with
  | command c => exact h.command c 0
  | tooFew => exact h.report _
  | driven enough atEnd => exact atEnd.reached_concluded h

/-- Steps in any order of turns leave a reached stage. -/
theorem Performs.reached {steps : List Step} {answers : List (Outcome × List LogLine)}
    (performs : Performs stage steps answers last) (h : stage.Reached) : last.Reached := by
  induction performs with
  | nothing => exact h
  | step comes _ ih => exact ih (comes.reached h)

/-- The step that runs is one of those that are possible. -/
theorem Stage.Reached.comes (h : stage.Reached) (step : Step) :
    step.Comes stage (step.run stage).1 (step.run stage).2 := by
  cases step with
  | command c => exact .command c
  | drive cast =>
    by_cases few : cast.participants.length < 2
    · have same : drive cast.config cast.participants stage = (tooFew cast.participants,
          { stage with lastRun := some (tooFew cast.participants).result }) := by
        rw [drive, if_pos few]
      rw [Step.run, same]
      exact .tooFew few
    · have enough := Nat.le_of_not_lt few
      obtain ⟨marks, w, r, atEnd, -, same⟩ := drive_possible h cast.config enough
      rw [Step.run, same]
      exact .driven enough atEnd

theorem Stage.Reached.performs (h : stage.Reached) (steps : List Step) :
    ∃ last, Performs stage steps (runSteps stage steps) last := by
  induction steps generalizing stage with
  | nil => exact ⟨stage, .nothing⟩
  | cons step steps ih =>
    have comes := h.comes step
    obtain ⟨last, others⟩ := ih (comes.reached h)
    exact ⟨last, .step comes others⟩

variable {before before' : List Event}

/-- Whatever a step may come to, it may come to on an alike stage. -/
theorem Step.Comes.alike (comes : step.Comes stage outcome next)
    (h : Stage.Alike before before' stage stage') :
    ∃ next', step.Comes stage' outcome next' ∧ Stage.Alike before before' next next' := by
  cases comes with
  | command c =>
    obtain ⟨same, after⟩ := c.blind_run 0 before before' stage stage' h
    refine ⟨_, ?_, after⟩
    rw [← same]
    exact .command c
  | @tooFew cast few =>
    exact ⟨_, .tooFew few, h.change (f := fun stage => { stage with
      lastRun := some (Rehearsal.tooFew cast.participants).result }) fun _ _ => rfl⟩
  | @driven cast marks w r enough atEnd =>
    obtain ⟨r', atEnd', alike⟩ := atEnd.alike h
    obtain ⟨same, after⟩ := alike.concluded cast.config cast.participants w
    refine ⟨_, ?_, after⟩
    rw [← same]
    exact .driven enough atEnd'

theorem Performs.alike {steps : List Step} {answers : List (Outcome × List LogLine)}
    (performs : Performs stage steps answers last) (h : Stage.Alike before before' stage stage') :
    ∃ last', Performs stage' steps answers last' := by
  induction performs generalizing before before' stage' with
  | nothing => exact ⟨stage', .nothing⟩
  | @step stage next last step steps outcome answers comes _ ih =>
    obtain ⟨next', comes', after⟩ := comes.alike h.fromNow
    obtain ⟨last', others⟩ := ih after
    obtain ⟨events, log, log'⟩ := after.world.log
    refine ⟨last', ?_⟩
    have logged : next.world.log.drop stage.world.log.length =
        next'.world.log.drop stage'.world.log.length := by
      rw [log, log', List.drop_left, List.drop_left]
    rw [logged]
    exact .step comes' others

/-! ## Composition -/

/-- **Runs compose.** Whoever took part in a driven run that is over takes no step any more,
whatever happens later. Nobody is left at work, so all later steps, in any order of turns, come to
what they come to on a stage with the same names, mocks and messages, whatever else has happened
there. A receive on a session with messages gets the oldest at once, and nobody is left waiting for
a message that is there. -/
theorem Stage.Reached.runs_compose (h : stage.Reached) :
    (∀ config participants marks w r, Over config participants stage marks w r →
      ∃ after : Run, after.Reached ∧ after.stage = (concluded config participants w r).2 ∧
        ∀ later, Relation.ReflTransGen Run.Goes after later → ∀ (i : Nat) t,
          r.tasks[i]? = some t → later.Retired i t.script t.log) ∧
    (∀ steps, ∃ last, Performs stage steps (runSteps stage steps) last) ∧
    (∀ steps answers last, Performs stage steps answers last → last.Reached) ∧
    stage.world.Deserted ∧
    (∀ stage', stage.Matches stage' → stage'.world.Deserted → ∀ steps,
      runSteps stage' steps = runSteps stage steps ∧
        ∀ answers, (∃ last, Performs stage' steps answers last) ↔
          ∃ last, Performs stage steps answers last) ∧
    (∀ name k s e rest, stage.sessions.lookup name = some s →
      (stage.world.queue s.inbound).envelopes = e :: rest → ∀ me now, ∃ last : Stage,
        (Action.receive name k).start me now stage = (.ended (e.parcel.report k), last) ∧
          (last.world.queue s.inbound).envelopes = rest) ∧
    ∀ r : Run, r.Reached → r.ready = [] → ∀ i q, r.WaitsAt i q →
      (r.stage.world.queue q).envelopes = [] := by
  refine ⟨fun config participants marks w r atEnd => ?_, h.performs,
    fun steps answers last performs => performs.reached h, h.deserted,
    fun stage' same deserted' steps => ?_,
    fun name k s e rest named queued => Action.receive_of_cons named queued,
    fun r reached idle i q waits => reached.sound.empty_of_idle idle waits⟩
  · obtain ⟨after, reached, concluded, tasks⟩ := atEnd.ended h
    refine ⟨after, reached, concluded, fun later history i t ht => ?_⟩
    refine reached.sound.retired_of_goes history ⟨.ok (), ?_⟩
    rw [tasks, List.getElem?_map, ht]
    rfl
  · have alike : Stage.Alike stage.world.log stage'.world.log stage stage' :=
      ⟨same.rest, same.world.alike h.deserted deserted'⟩
    refine ⟨alike.runSteps steps, fun answers => ⟨?_, ?_⟩⟩
    · rintro ⟨last, performs⟩
      exact performs.alike alike.symm
    · rintro ⟨last, performs⟩
      exact performs.alike alike

end

attribute [local instance] Clock.usual

/-- Two who waited for each other in vain leave the stage as if they had never been there. -/
theorem Stage.runs_compose_standoff :
    Stage.pair.Reached ∧
      (drive .fast Participant.standoff Stage.pair).1.result =
        .error (.participantDeadlock ["alice", "bob"] Config.fast.timeout) ∧
      ∀ steps, runSteps
          { (drive .fast Participant.standoff Stage.pair).2 with lastRun := none } steps =
        runSteps Stage.pair steps := by
  have left : Stage.Reached { (drive .fast Participant.standoff Stage.pair).2 with
      lastRun := none } := (Stage.Reached.pair.driven _ _).report none
  have same : Stage.pair.Matches { (drive .fast Participant.standoff Stage.pair).2 with
      lastRun := none } := by
    -- Nobody ever wrote to another queue than the two of the link.
    have queues : (drive .fast Participant.standoff Stage.pair).2.world.queues.cells =
        [(⟨0, .a⟩, {}), (⟨0, .b⟩, {})] := by rfl
    have empty : ∀ q, (drive .fast Participant.standoff Stage.pair).2.world.queue q = {} := by
      intro q
      rw [World.queue, Store.get, queues, List.lookup_cons, List.lookup_cons]
      cases q == ⟨0, .a⟩ <;> cases q == ⟨0, .b⟩ <;> rfl
    refine ⟨rfl, rfl, fun q => ?_, fun q => ?_⟩
    · exact congrArg Queue.envelopes (empty q)
    · exact congrArg Queue.nextSequence (empty q)
  obtain ⟨-, -, -, -, matching, -⟩ := Stage.Reached.pair.runs_compose
  exact ⟨.pair, rfl, fun steps => (matching _ same left.deserted steps).1⟩

end Rehearsal
