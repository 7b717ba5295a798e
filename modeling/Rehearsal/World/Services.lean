import Rehearsal.Data.Reading
import Rehearsal.World.Links

/-!
# Calling mocks

The calls that flows and tests make on mocks. A call leaves its trace in the mock before it can
fail.
-/

namespace Rehearsal.Act

/-- Stubs the name of the member that an engine runs as. -/
def setNodeName (m : MockId) (name : Member) : Act Unit :=
  modify fun w => { w with engines := w.engines.modify m (·.setNodeName name) }

/-- The name of the member that an engine runs as. -/
def nodeName (m : MockId) : Act Member := ask fun w => (w.engines.get m).virtualNodeName

/-- Stubs the result of a sub-flow. -/
def setSubFlow (m : MockId) (flow : String) (result : Json) : Act Unit :=
  modify fun w => { w with engines := w.engines.modify m (·.setResult flow result) }

/-- Runs a sub-flow: keeps the call and gives the stubbed result. -/
def subFlow (m : MockId) (flow : String) (input : Json) : Act Json := do
  modify fun w => { w with engines := w.engines.modify m (·.record flow input) }
  ask fun w => (w.engines.get m).result flow

/-- Opens a session with a member: keeps the attempt and gives the attached session. -/
def initiate (m : MockId) (counterparty : Member) : Act Session := do
  modify fun w => { w with messagings := w.messagings.modify m (·.record counterparty) }
  ask fun w => (w.messagings.get m).session counterparty

/-- Writes a value as JSON. -/
def format (m : MockId) (p : Payload) : Act String := do
  modify fun w => { w with marshallings := w.marshallings.modify m (·.countFormat) }
  ask fun _ => p.format

/-- Reads a value of a kind from JSON. -/
def parse (m : MockId) (k : Kind) (text : String) : Act k.Value := do
  modify fun w => { w with marshallings := w.marshallings.modify m (·.countParse) }
  ask fun _ => Error.ofRefusal (k.parse text)

/-- Persists a value. -/
def persist (m : MockId) (p : Payload) : Act Unit := do
  let j ← ask fun _ => Error.ofFault (Persistence.stored p)
  modify fun w => { w with persistences := w.persistences.modify m fun s => s.add p.kind j }

/-- All persisted values of a kind. -/
def findAll (m : MockId) (k : Kind) : Act (List k.Value) :=
  ask fun w => Error.ofFault ((w.persistences.get m).findAll k)

end Rehearsal.Act
