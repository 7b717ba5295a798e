import Rehearsal.Flow.Constructor

/-!
# Scripted flows

Flows for testing how flows are built. Their dependencies and the steps of their constructor are
given: capabilities to register, then capabilities to ask for, then perhaps a failure.
-/

namespace Rehearsal

/-- What a scripted flow declares and what its constructor does. -/
structure ScriptedFlow where
  declares : List Capability := []
  registers : List Capability := []
  injects : List Capability := []
  /-- The message of the failure at the end, if there is one. -/
  failure : Option String := none

namespace ScriptedFlow

/-- Registers capabilities one after the other. -/
def registerAll : List Capability → Constructor Unit
  | [] => pure ()
  | c :: cs => do
    let _ ← Constructor.registering c
    registerAll cs

/-- Asks for capabilities one after the other. -/
def injectAll : List Capability → Constructor (List MockId)
  | [] => pure []
  | c :: cs => do
    let m ← Constructor.injecting c
    return m :: (← injectAll cs)

/-- How a scripted flow is built: into the mocks that it asked for. -/
def blueprint (flow : ScriptedFlow) : Blueprint (List MockId) where
  name := "oracle_driver::fixtures::ScriptedFlow"
  dependencies := flow.declares
  constructor := do
    registerAll flow.registers
    let mocks ← injectAll flow.injects
    match flow.failure with
    | some message => .failed (.flowFailed message)
    | none => return mocks

end ScriptedFlow

end Rehearsal
