import Rehearsal.Drive.Script

/-!
# Tasks

A participant's body while it runs. A task goes from one wait to the next without a break; between
two turns it is not started, waiting, or ended.
-/

namespace Rehearsal

/-- Where a body is between two turns. -/
inductive Phase where
  | unstarted
  /-- In an action that waits; whether its failure would be tolerated is kept with it. -/
  | waiting (wait : Wait) (tolerant : Bool)
  | ended (result : Except Failure Unit)

/-- A body while it runs. -/
structure Task where
  /-- What it has not started yet. -/
  script : List Line
  phase : Phase := .unstarted
  /-- How its actions ended, oldest first. A panic is not kept. -/
  log : List Report := []

namespace Task

instance : Inhabited Task := ⟨{ script := [] }⟩

/-- Whether a body has ended. -/
def isEnded (t : Task) : Bool :=
  match t.phase with
  | .ended _ => true
  | _ => false

/-- How a body has ended. -/
def result? (t : Task) : Option (Except Failure Unit) :=
  match t.phase with
  | .ended result => some result
  | _ => none

/-- The log after an action has ended, and how the body ends with it, if it does. -/
def conclude (log : List Report) (tolerant : Bool) :
    Report → List Report × Option (Except Failure Unit)
  | .ok a => (log ++ [.ok a], none)
  | .error (.panic payload) => (log, some (.error (.panic payload)))
  | .error failure =>
    (log ++ [.error failure], if tolerant then none else some (.error failure))

/-- Starts the actions of a script one after the other, up to one that waits or ends the body. -/
def proceed (me : Waiter) (now : Tick) : List Line → List Report → Stage → Task × Stage
  | [], log, stage => ({ script := [], phase := .ended (.ok ()), log }, stage)
  | line :: script, log, stage =>
    match line.action.start me now stage with
    | (.waits wait, stage) => ({ script, phase := .waiting wait line.tolerant, log }, stage)
    | (.ended report, stage) =>
      match conclude log line.tolerant report with
      | (log, some result) => ({ script, phase := .ended result, log }, stage)
      | (log, none) => proceed me now script log stage

/-- One turn of a task: from where it waits to where it waits next, or to its end. -/
def poll (me : Waiter) (now : Tick) (t : Task) (stage : Stage) : Task × Stage :=
  match t.phase with
  | .ended _ => (t, stage)
  | .unstarted => proceed me now t.script t.log stage
  | .waiting wait tolerant =>
    match wait.resume me stage with
    | (none, stage) => (t, stage)
    | (some report, stage) =>
      match conclude t.log tolerant report with
      | (log, some result) => ({ t with phase := .ended result, log }, stage)
      | (log, none) => proceed me now t.script log stage

/-- When a sleeping task is due. -/
def due? (t : Task) : Option Tick :=
  match t.phase with
  | .waiting (.sleep due) _ => some due
  | _ => none

/-- Takes a task out of the queue it waits on. -/
def withdraw (me : Waiter) (t : Task) (w : World) : World :=
  match t.phase with
  | .waiting (.message r) _ => w.withdraw me r.session
  | _ => w

end Task

end Rehearsal
