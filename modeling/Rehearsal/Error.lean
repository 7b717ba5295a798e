import Rehearsal.Duration
import Rehearsal.Json.Place
import Rehearsal.Member

/-!
# Errors

What can go wrong in a rehearsal, as a cause, and the wording of each cause. A participant's failure
holds the error it failed with, and its wording ends with the wording of that error.
-/

namespace Rehearsal

/-- What went wrong. -/
inductive Error where
  /-- A capability was asked of a registry that never registered it. -/
  | capabilityNotRegistered (participant capability : String)
  /-- A flow declares a dependency that its registry lacks. -/
  | unsatisfiedDependency (flow participant capability : String)
  /-- A flow asks for a capability that it did not declare. -/
  | undeclaredDependency (flow capability : String)
  /-- A new capability came after a flow was built. -/
  | registrySealed (participant capability : String)
  /-- A message is of another kind than the receiver asked for. -/
  | unexpectedMessageType (expected actual : String)
  /-- Messages were sent and never received. -/
  | unconsumedMessages (count : Nat)
  /-- A driven participant failed or panicked. -/
  | participantFailed (participant : String) (source : Error)
  /-- Participants were still running at the deadline. -/
  | participantDeadlock (participants : List String) (timeout : Duration)
  | panicked (message : String)
  /-- A session was asked for with a member that no link leads to. -/
  | noSessionForCounterparty (counterparty : String)
  /-- A mock was called without a stub. -/
  | unstubbedCall (capability method : String)
  | invalidMemberName (name reason : String)
  /-- A wrong configuration, or a wrong use of the driver. -/
  | invalidConfiguration (message : String)
  | serialization (refusal : Json.Refusal)
  /-- Raised by a flow itself. -/
  | flowFailed (message : String)

namespace Error

/-- The wording of an error. -/
def text : Error → String
  | capabilityNotRegistered participant capability =>
    "Capability not registered for participant '" ++ participant ++ "': " ++ capability
  | unsatisfiedDependency flow participant capability =>
    "Unsatisfied dependency for flow '" ++ flow ++ "': " ++ capability ++
      " is not registered for participant '" ++ participant ++ "'"
  | undeclaredDependency flow capability =>
    "Flow '" ++ flow ++ "' requested undeclared capability: " ++ capability
  | registrySealed participant capability =>
    "Registry for participant '" ++ participant ++ "' is sealed, cannot register " ++ capability
  | unexpectedMessageType expected actual =>
    "Unexpected message type: expected " ++ expected ++ ", received " ++ actual
  | unconsumedMessages count => toString count ++ " message(s) were sent but never received"
  | participantFailed participant source =>
    "Participant '" ++ participant ++ "' failed: " ++ source.text
  | participantDeadlock participants timeout =>
    "Participants " ++ Text.quotedList participants ++ " did not complete within " ++ timeout.text
  | panicked message => "Panicked: " ++ message
  | noSessionForCounterparty counterparty =>
    "No session registered for counterparty: " ++ counterparty
  | unstubbedCall capability method => "Unstubbed call: " ++ capability ++ "::" ++ method
  | invalidMemberName name reason => "Invalid member name '" ++ name ++ "': " ++ reason
  | invalidConfiguration message => "Invalid configuration: " ++ message
  | serialization refusal => "Serialization error: " ++ refusal.message
  | flowFailed message => "Flow failed: " ++ message

/-- The wordings of the errors behind an error, nearest first. Only a participant's failure and a
JSON fault have something behind them. -/
def sources : Error → List String
  | participantFailed _ source => source.text :: source.sources
  | serialization refusal => [refusal.message]
  | _ => []

end Error

/-- Reads a member name; a text that is none is reported with the text itself. -/
def Member.read (s : String) : Except Error Member :=
  match parse s with
  | .ok m => .ok m
  | .error fault => .error (.invalidMemberName s fault.reason)

/-- Reading a text, as a step of a rehearsal. -/
def Error.ofRefusal {α : Type} : Except Json.Refusal α → Except Error α
  | .ok a => .ok a
  | .error refusal => .error (.serialization refusal)

/-- Work on JSON that is no text, as a step of a rehearsal. -/
def Error.ofFault {α : Type} : Except Json.Fault α → Except Error α
  | .ok a => .ok a
  | .error fault => .error (.serialization { fault })

end Rehearsal
