import Rehearsal.Text.Quoted

/-!
# Capabilities

A capability is a service that a flow may depend on. Four come with the library; a test may bring
any number of its own. Two capabilities are the same only if they are the same type of service:
what they are called does not count.
-/

namespace Rehearsal

/-- A type of service. -/
inductive Capability where
  | engine
  | messaging
  | marshalling
  | persistence
  /-- A service that a test brings, with an identity of its own and any name. -/
  | client (identity : String) (name : String)
  deriving DecidableEq

namespace Capability

/-- The name of a capability in errors and logs. -/
def name : Capability → String
  | engine => "FlowEngine"
  | messaging => "FlowMessaging"
  | marshalling => "JsonMarshalling"
  | persistence => "Persistence"
  | client _ name => name

/-- A capability as a diagnostic shows it. -/
def debug (c : Capability) : String :=
  "CapabilityKey(" ++ Text.quoted c.name ++ ")"

end Capability

end Rehearsal
