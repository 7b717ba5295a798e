import Rehearsal.Proofs.Drive.Tasks
import Rehearsal.Proofs.Scenario.Errands

/-!
# What a turn does to the world

Between two waits a body runs errands. A turn that begins at a queue begins with a look there, and a
turn that ends at a queue ends with a look in vain; this is all that sets a turn apart from what
somebody does who does not wait.
-/

namespace Rehearsal

variable {me : Waiter} {now : Tick}

/-- What an action that was started waits for a message for. -/
def Started.reception? : Started → Option Reception
  | waits (.message x) => some x
  | _ => none

/-- What a body waits for a message for. -/
def Phase.reception? : Phase → Option Reception
  | waiting (.message x) _ => some x
  | _ => none

/-- What a task waits for a message for. -/
def Task.reception? (t : Task) : Option Reception := t.phase.reception?

@[simp] theorem Phase.reception?_waiting (wait : Wait) (tolerant : Bool) :
    (Phase.waiting wait tolerant).reception? = (Started.waits wait).reception? := by
  cases wait <;> rfl

/-- From one world to the other somebody went on, until it waits for a message or without that. -/
inductive World.Strides (me : Waiter) : World → Option Reception → World → Prop where
  | rests {w w' : World} (errands : w.Errands w') : Strides me w none w'
  /-- It begins to receive, and there is no message. -/
  | listens {w w' w'' : World} {x : Reception} (errands : w.Errands w')
      (missed : (x.start w').lookFor me x.session = (none, w'')) : Strides me w (some x) w''

/-- The same of a stage whose names are good. -/
structure Stage.Strides (me : Waiter) (stage : Stage) (heard : Option Reception) (stage' : Stage) :
    Prop where
  world : stage.world.Strides me heard stage'.world
  enrolled : stage'.Enrolled

theorem World.Strides.after {w w' w'' : World} {heard : Option Reception} (errands : w.Errands w')
    (strides : w'.Strides me heard w'') : w.Strides me heard w'' := by
  cases strides with
  | rests errands' => exact .rests (errands.trans errands')
  | listens errands' missed => exact .listens (errands.trans errands') missed

theorem World.Strides.evolves {w w' : World} {heard : Option Reception}
    (strides : w.Strides me heard w') : w.Evolves w' := by
  cases strides with
  | rests errands => exact errands.evolves
  | listens errands missed => exact errands.evolves.trans (World.evolves_lookFor missed)

/-- Whoever takes a turn logs nothing for a driver. -/
theorem World.Strides.logs {w w' : World} {heard : Option Reception}
    (strides : w.Strides me heard w') : w.Logs (¬ Event.OfDriver ·) w' := by
  cases strides with
  | rests errands => exact errands.logs
  | listens errands missed => exact errands.logs.trans (World.logs_start_lookFor missed)

/-- A receiver that is back looks again: these are two operations. -/
theorem World.evolves_answer {w w' : World} {s : Session} {found : Option Envelope}
    (looked : (w.answerCall me s).lookFor me s = (found, w')) : w.Evolves w' := by
  have answered : w.Evolves (w.answerCall me s) := .single (.answer me s) trivial
  exact answered.trans (.of_run (.look me s) trivial (congrArg Prod.snd looked))

theorem World.logs_answer {w w' : World} {s : Session} {found : Option Envelope}
    (looked : (w.answerCall me s).lookFor me s = (found, w')) :
    w.Logs (¬ Event.OfDriver ·) w' :=
  (Logs.of_same (log_answerCall w me s)).trans (logs_lookFor looked)

/-! ## Starting an action -/

namespace Action

/-- Whatever the stage, the action ends or waits after a stride. -/
def Strides (me : Waiter) (x : Play Started) : Prop :=
  ∀ stage : Stage, stage.Enrolled →
    stage.Strides me (concluded (x stage)).1.reception? (concluded (x stage)).2

theorem strides_bind {α : Type} {x : Play α} {f : α → Play Started} (hx : x.IsErrand)
    (hf : ∀ a, Strides me (f a)) : Strides me (x >>= f) := by
  intro stage enrolled
  obtain ⟨errands, enrolled'⟩ := hx stage enrolled
  rw [bind_apply]
  revert errands enrolled'
  rcases x stage with ⟨failure | a, stage'⟩
  · exact fun errands enrolled' => ⟨.rests errands, enrolled'⟩
  · exact fun errands enrolled' => ⟨.after errands (hf a stage' enrolled').world,
      (hf a stage' enrolled').enrolled⟩

theorem strides_pure {started : Started} (rests : started.reception? = none) :
    Strides me (pure started) := by
  intro stage enrolled
  refine ⟨?_, enrolled⟩
  show stage.world.Strides me started.reception? stage.world
  rw [rests]
  exact .rests (.refl _)

theorem strides_throw (failure : Failure) : Strides me (throw failure) :=
  fun _ enrolled => ⟨.rests (.refl _), enrolled⟩

theorem strides_receiving (x : Reception) : Strides me (receiving me x) := by
  intro stage enrolled
  unfold receiving
  rcases looked : x.look me (x.start stage.world) with ⟨_ | result, w⟩
  · have missed := Reception.lookFor_of_look_none looked
    have changes := (World.evolves_lookFor missed).changes
    exact ⟨.listens (.refl _) missed, enrolled.mapWorld changes⟩
  · have errands := Reception.errands_of_start_look looked
    cases result <;> exact ⟨.rests errands, enrolled.mapWorld errands.evolves.changes⟩

/-- Whoever pauses can go on, after all others that can. -/
theorem errand_pause :
    Play.IsErrand (modify fun stage : Stage =>
      { stage with world := { stage.world with ready := stage.world.ready ++ [me] } }) :=
  keeps_modify fun stage enrolled => by
    have errands : stage.world.Errands { stage.world with ready := stage.world.ready ++ [me] } :=
      .aside (.ready _) trivial trivial
    exact ⟨errands, enrolled.mapWorld errands.evolves.changes⟩

theorem strides_play (me : Waiter) (now : Tick) (a : Action) : Strides me (a.play me now) := by
  cases a with
  | command c => exact strides_bind (c.errand_run me) fun _ => strides_pure rfl
  | receive name k => exact strides_bind (Play.errand_resolve _ _) fun _ => strides_receiving _
  | relay name target k =>
    refine strides_bind (Play.errand_resolve _ _) fun _ => ?_
    exact strides_bind (Play.errand_resolve _ _) fun _ => strides_receiving _
  | call flow input =>
    refine strides_bind (Play.errand_call flow input) fun called => ?_
    cases called with
    | answered a => exact strides_pure rfl
    | receives x => exact strides_receiving x
  | sleep millis =>
    cases millis with
    | zero => exact strides_pure rfl
    | succ n => exact strides_pure rfl
  | pause => exact strides_bind errand_pause fun _ => strides_pure rfl
  | fail e => exact strides_throw _
  | panic payload => exact strides_throw _

theorem strides_start (me : Waiter) (now : Tick) (a : Action) {stage : Stage}
    (enrolled : stage.Enrolled) :
    stage.Strides me (a.start me now stage).1.reception? (a.start me now stage).2 := by
  rw [start_eq]
  exact a.strides_play me now stage enrolled

end Action

/-! ## Turns -/

namespace Task

theorem strides_proceed (me : Waiter) (now : Tick) (script : List Line) (log : List Report)
    {stage : Stage} (enrolled : stage.Enrolled) :
    stage.Strides me (proceed me now script log stage).1.reception?
      (proceed me now script log stage).2 := by
  induction script generalizing log stage with
  | nil => exact ⟨.rests (.refl _), enrolled⟩
  | cons line script ih =>
    obtain ⟨strides, enrolled'⟩ := line.action.strides_start me now enrolled
    rw [proceed]
    revert strides enrolled'
    rcases line.action.start me now stage with ⟨report | wait, stage'⟩
    · intro strides enrolled'
      obtain ⟨errands⟩ : stage.world.Strides me none stage'.world := strides
      dsimp only
      rcases conclude log line.tolerant report with ⟨log', _ | result⟩
      · exact ⟨.after errands (ih log' enrolled').world, (ih log' enrolled').enrolled⟩
      · exact ⟨.rests errands, enrolled'⟩
    · intro strides enrolled'
      refine ⟨?_, enrolled'⟩
      rw [reception?, Phase.reception?_waiting]
      exact strides

theorem strides_goOn (me : Waiter) (now : Tick) (t : Task) (tolerant : Bool) (report : Report)
    {stage : Stage} (enrolled : stage.Enrolled) :
    stage.Strides me (t.goOn me now tolerant report stage).1.reception?
      (t.goOn me now tolerant report stage).2 := by
  rw [goOn]
  rcases conclude t.log tolerant report with ⟨log, _ | result⟩
  · exact strides_proceed me now t.script log enrolled
  · exact ⟨.rests (.refl _), enrolled⟩

/-- What a turn does to the world, given what the task waited for before and waits for after it. -/
inductive Polls (me : Waiter) (w : World) : Option Reception → Option Reception → World → Prop where
  /-- A task that waits for no message goes on. -/
  | goes {heard : Option Reception} {w' : World} (strides : w.Strides me heard w') :
      Polls me w none heard w'
  /-- The message is there, and the task goes on. -/
  | found {x : Reception} {e : Envelope} {heard : Option Reception} {w' w'' : World}
      (found : (w.answerCall me x.session).lookFor me x.session = (some e, w'))
      (strides : w'.Strides me heard w'') : Polls me w (some x) heard w''
  /-- There is no message, and the task waits on. -/
  | missed {x : Reception} {w' : World}
      (missed : (w.answerCall me x.session).lookFor me x.session = (none, w')) :
      Polls me w (some x) (some x) w'

theorem polls_poll (me : Waiter) (now : Tick) (t : Task) {stage : Stage}
    (enrolled : stage.Enrolled) :
    Polls me stage.world t.reception? (t.poll me now stage).1.reception?
        (t.poll me now stage).2.world ∧ (t.poll me now stage).2.Enrolled := by
  cases phase : t.phase with
  | unstarted =>
    rw [poll_unstarted phase, reception?, phase]
    have strides := strides_proceed me now t.script t.log enrolled
    exact ⟨.goes strides.world, strides.enrolled⟩
  | ended result =>
    rw [poll, phase, reception?, phase]
    exact ⟨.goes (.rests (.refl _)), enrolled⟩
  | waiting wait tolerant =>
    have listens : t.reception? = (Started.waits wait).reception? := by
      rw [reception?, phase, Phase.reception?_waiting]
    have goesOn {stage' : Stage} (report : Report) (enrolled' : stage'.Enrolled) :=
      strides_goOn me now t tolerant report enrolled'
    rw [poll_waiting phase, listens]
    cases wait with
    | sleep due => exact ⟨.goes (goesOn _ enrolled).world, (goesOn _ enrolled).enrolled⟩
    | turn => exact ⟨.goes (goesOn _ enrolled).world, (goesOn _ enrolled).enrolled⟩
    | message x =>
      rw [Wait.resume]
      rcases looked : x.look me (stage.world.answerCall me x.session) with ⟨_ | result, w⟩
      · have missed := Reception.lookFor_of_look_none looked
        dsimp only
        rw [listens]
        exact ⟨.missed missed, enrolled.mapWorld (World.evolves_answer missed).changes⟩
      · obtain ⟨e, w', found, errands⟩ := Reception.errands_of_look_some looked
        have enrolled' : ({ stage with world := w } : Stage).Enrolled :=
          enrolled.mapWorld ((World.evolves_answer found).trans errands.evolves).changes
        cases result <;>
          exact ⟨.found found (.after errands (goesOn _ enrolled').world),
            (goesOn _ enrolled').enrolled⟩

/-- A turn comes down to operations. -/
theorem Polls.evolves {w w' : World} {before after : Option Reception}
    (polls : Polls me w before after w') : w.Evolves w' := by
  cases polls with
  | goes strides => exact strides.evolves
  | found found strides => exact (World.evolves_answer found).trans strides.evolves
  | missed missed => exact World.evolves_answer missed

/-- A turn logs nothing for a driver. -/
theorem Polls.logs {w w' : World} {before after : Option Reception}
    (polls : Polls me w before after w') : w.Logs (¬ Event.OfDriver ·) w' := by
  cases polls with
  | goes strides => exact strides.logs
  | found found strides => exact (World.logs_answer found).trans strides.logs
  | missed missed => exact World.logs_answer missed

end Task

end Rehearsal
