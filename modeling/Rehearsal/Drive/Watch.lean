import Rehearsal.Drive.Clock
import Rehearsal.Scenario.Answer

/-!
# Watching a run

What the driver of a run keeps: its deadline, who has settled, and the failures so far. The first
failure brings the deadline nearer, so that the others have only the grace left.
-/

namespace Rehearsal

/-- What the driver keeps while it watches. -/
structure Watch where
  deadline : Tick
  /-- The clock could not count a deadline. The driver panics there; the rest is what it would keep
  if the clock could. -/
  overflowed : Bool := false
  /-- The participants that ended, in the order in which the driver saw it. -/
  settled : List Nat := []
  /-- The failures, each with the participant that failed, in the same order. -/
  failures : List Error := []

namespace Watch

section
variable [Clock]

/-- A watch from now on. -/
def start (config : Config) (now : Tick) : Watch where
  deadline := now.after config.timeout
  overflowed := (now.after? config.timeout).isNone

/-- The driver sees how a participant ended. -/
def observe (w : Watch) (config : Config) (now : Tick) (index : Nat) (name : String) :
    Except Failure Unit → Watch × Event
  | .ok () => ({ w with settled := w.settled ++ [index] }, .participantCompleted name)
  | .error failure =>
    -- The deadline only ever comes nearer.
    ({ deadline := min w.deadline (now.after config.failureGrace)
       overflowed := w.overflowed || (now.after? config.failureGrace).isNone
       settled := w.settled ++ [index]
       failures := w.failures ++ [.participantFailed name failure.toError] },
      .participantFailed name failure.toError)

end

/-- The names of those that have not settled, in their order. -/
def stuck (w : Watch) (names : List String) : List String :=
  (names.zipIdx.filter fun p => !w.settled.contains p.2).map (·.1)

/-- How a watched run ends: with the first failure, else with those that are stuck. -/
def verdict (w : Watch) (config : Config) (names : List String) : Except Error Unit :=
  match w.failures with
  | first :: _ => .error first
  | [] =>
    let stuck := w.stuck names
    if stuck.isEmpty then .ok () else .error (.participantDeadlock stuck config.timeout)

/-- What is logged when a run ends: who was aborted, all failures but the first, and success. -/
def closing (w : Watch) (config : Config) (names : List String) : List Event :=
  let stuck := w.stuck names
  let aborted := if stuck.isEmpty then [] else [.participantsAborted stuck config.timeout]
  let success :=
    if stuck.isEmpty && w.failures.isEmpty then [.allCompleted names.length] else []
  aborted ++ (w.failures.drop 1).map .furtherFailure ++ success

end Watch

end Rehearsal
