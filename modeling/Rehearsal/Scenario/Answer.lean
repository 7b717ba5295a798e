import Rehearsal.Config
import Rehearsal.Event
import Rehearsal.Mock.Marshalling
import Rehearsal.Panic

/-!
# Answers

What the steps of a scenario answer.
-/

namespace Rehearsal

/-- Why a step has no answer. -/
inductive Failure where
  | error (e : Error)
  /-- An assertion did not hold, and says what was found instead. -/
  | assertion (message : String)
  /-- The body of a participant panicked. -/
  | panic (payload : PanicPayload)
  /-- The step uses a handle that nothing is stored under. -/
  | unknown (handle : String)

namespace Failure

/-- What joining the task of a body that failed yields: the error that it returned, or why there is
none. A failed assertion panics, and so does the use of a handle that is not there. -/
def joined : Failure → Error ⊕ JoinError
  | error e => .inl e
  | assertion message => .inr (.panicked (.string message))
  | panic payload => .inr (.panicked payload)
  | unknown handle => .inr (.panicked (.string ("unknown handle: " ++ handle)))

/-- The error that a participant's driver reports for a failure. -/
def toError (f : Failure) : Error :=
  match f.joined with
  | .inl e => e
  | .inr joinError => .panicked joinError.describe

end Failure

/-- A registry as an answer shows it. -/
structure RegistryView where
  participant : String
  capabilities : List String
  isSealed : Bool
  debug : String

/-- A session as an answer shows it. -/
structure SessionView where
  owner : String
  counterparty : String
  pendingInbound : Nat
  debug : String

/-- A link as an answer shows it. -/
structure LinkView where
  pending : Nat
  types : List String
  failIfPending : Except Error Unit
  debug : String

/-- Two capability keys as an answer compares them. -/
structure CapabilityView where
  equal : Bool
  distinct : Nat
  name : String
  display : String
  debug : String

/-- A payload as an answer shows it, and what comes of taking it as another kind. -/
structure PayloadView where
  name : String
  debug : String
  equal : Bool
  expectKind : Except Error Unit
  /-- The shown value. -/
  taken : Except Error String

/-- One step on a configuration: the new configuration, and whether it equals the one before. -/
abbrev ConfigReport := Except Config.Fault (Config × Bool)

/-- What a step answers. -/
inductive Answer where
  | nothing
  | flag (b : Bool)
  | count (n : Nat)
  | text (s : String)
  | texts (items : List String)
  /-- The step would have to wait. -/
  | pending
  /-- A mock, by the order in which mocks first appear in answers. -/
  | mock (number : Nat)
  | member (m : Member)
  | members (firstEqual : List Nat) (distinct : Nat)
  | configs (reports : List ConfigReport)
  | error (e : Error)
  | capabilities (view : CapabilityView)
  | payload (view : PayloadView)
  | request (body : String) (equal : Bool)
  | registry (view : RegistryView)
  | built (participant : String) (mocks : List Nat)
  | opened (session : Session)
  | calls (items : List (String × String))
  | marshalling (counts : Marshalling)
  | link (view : LinkView)
  | session (view : SessionView)

/-- How a step ended. -/
abbrev Report := Except Failure Answer

end Rehearsal
