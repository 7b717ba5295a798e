import Rehearsal.Event
import Rehearsal.Mock.Engine
import Rehearsal.Mock.Marshalling
import Rehearsal.Mock.Messaging
import Rehearsal.Mock.Persistence
import Rehearsal.World.Store

/-!
# The world of a rehearsal

Everything that registries, mocks and links share, as one value. Handles to registries and mocks
are numbers, so all copies of a handle see the same cell. An action on the world that fails keeps
what it did before it failed.
-/

namespace Rehearsal

/-- The shared state of a rehearsal. -/
structure World where
  registries : Store RegistryId Registry := {}
  engines : Store MockId Engine := {}
  messagings : Store MockId Messaging := {}
  marshallings : Store MockId Marshalling := {}
  persistences : Store MockId Persistence := {}
  queues : Store QueueId Queue := {}
  /-- How many registries there are; the next one gets this number. -/
  registryCount : Nat := 0
  mockCount : Nat := 0
  linkCount : Nat := 0
  /-- Participants that can go on, in the order in which they will. -/
  ready : List Waiter := []
  /-- Everything that was logged, oldest first. -/
  log : List Event := []

/-- An action on the world. -/
abbrev Act (α : Type) := ExceptT Error (StateM World) α

namespace World

/-- Adds an event to the log. -/
def note (w : World) (e : Event) : World := { w with log := w.log ++ [e] }

/-- A queue of the world. -/
def queue (w : World) (q : QueueId) : Queue := w.queues.get q

/-- A registry of the world. -/
def registry (w : World) (r : RegistryId) : Registry := w.registries.get r

end World

namespace Act

/-- Adds an event to the log. -/
def note (e : Event) : Act Unit := modify (·.note e)

/-- Something that the world is asked and that may fail. -/
def ask {α : Type} (question : World → Except Error α) : Act α := do
  match question (← get) with
  | .ok a => pure a
  | .error e => throw e

/-- Carries out an action and hands on how it ended instead of failing with it. -/
def attempt {α : Type} (a : Act α) : Act (Except Error α) := fun w =>
  let (result, w) := a w
  (.ok result, w)

end Act

end Rehearsal
