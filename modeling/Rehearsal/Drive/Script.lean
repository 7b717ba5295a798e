import Rehearsal.Drive.Clock
import Rehearsal.Scenario.Command

/-!
# Scripts

What the body of a participant does: a list of actions. An action ends with a report or waits, and
an action that fails ends the body, unless the script tolerates that.
-/

namespace Rehearsal

/-- One thing that a body does. -/
inductive Action where
  /-- A step that does not wait. -/
  | command (c : Command)
  | receive (session : String) (k : Kind)
  /-- Receives on one session and sends what came on another. -/
  | relay (session target : String) (k : Kind)
  | call (flow : String) (input : CallInput)
  | sleep (millis : Nat)
  /-- Lets all others that can go on go first. -/
  | pause
  | fail (e : Error)
  | panic (payload : PanicPayload)

/-- An action, and whether the body goes on if it fails. -/
structure Line where
  action : Action
  tolerant : Bool := false

/-- A participant of a run. -/
structure Participant where
  name : String
  script : List Line

/-- What an action waits for. -/
inductive Wait where
  | message (r : Reception)
  | sleep (due : Tick)
  | turn

/-- What starting an action comes to. -/
inductive Started where
  | ended (report : Report)
  | waits (wait : Wait)

namespace Action

/-- Starts a reception: looks once and waits if there is no message. -/
def receiving (me : Waiter) (r : Reception) : Play Started := fun stage =>
  match r.look me (r.start stage.world) with
  | (some (.ok a), world) => (.ok (.ended (.ok a)), { stage with world })
  | (some (.error e), world) => (.error (.error e), { stage with world })
  | (none, world) => (.ok (.waits (.message r)), { stage with world })

/-- Starts an action of a participant. -/
def play (me : Waiter) (now : Tick) : Action → Play Started
  | command c => do return .ended (.ok (← c.run me))
  | receive session k => do receiving me (.keep (← Play.session session) k)
  | relay session target k => do
    let s ← Play.session session
    receiving me (.relay s (← Play.session target) k)
  | call flow input => do
    match ← Play.call flow input with
    | .answered a => return .ended (.ok a)
    | .receives r => receiving me r
  -- A sleep of no length is over as it begins, and nobody else gets a turn.
  | sleep 0 => return .ended (.ok .nothing)
  | sleep millis => return .waits (.sleep (now.wakes millis))
  | pause => do
    modify fun stage =>
      { stage with world := { stage.world with ready := stage.world.ready ++ [me] } }
    return .waits .turn
  | fail e => throw (.error e)
  | panic payload => throw (.panic payload)

/-- Starts an action; one that fails has ended. -/
def start (me : Waiter) (now : Tick) (a : Action) (stage : Stage) : Started × Stage :=
  match a.play me now stage with
  | (.ok started, stage) => (started, stage)
  | (.error failure, stage) => (.ended (.error failure), stage)

end Action

/-- Goes on with what was waited for: nothing if it is not there yet, or how the action ended. -/
def Wait.resume (me : Waiter) (stage : Stage) : Wait → Option Report × Stage
  | message r =>
    match r.look me (stage.world.answerCall me r.session) with
    | (none, world) => (none, { stage with world })
    | (some (.ok a), world) => (some (.ok a), { stage with world })
    | (some (.error e), world) => (some (.error (.error e)), { stage with world })
  | sleep _ => (some (.ok .nothing), stage)
  | turn => (some (.ok .nothing), stage)

end Rehearsal
