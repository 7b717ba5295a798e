import Rehearsal.World.Registries

/-!
# Building flows

A flow declares the capabilities that it depends on and has a constructor, a program that asks an
injector for their mocks. The constructor may also register capabilities on the registry it is built
from, and may fail; nothing of the flow runs. Building a flow seals the registry.
-/

namespace Rehearsal

/-- The program of a flow's constructor: what it asks for, what it does with each answer, and what
it builds. -/
inductive Constructor (α : Type) where
  | built (flow : α)
  | failed (error : Error)
  /-- Registers a capability on the registry. -/
  | register (c : Capability) (next : Except Error MockId → Constructor α)
  /-- Asks the injector for the mock of a capability. -/
  | inject (c : Capability) (next : Except Error MockId → Constructor α)

namespace Constructor

variable {α β : Type}

/-- Goes on with what was built. -/
def bind : Constructor α → (α → Constructor β) → Constructor β
  | built a, next => next a
  | failed e, _ => failed e
  | register c k, next => register c fun m => (k m).bind next
  | inject c k, next => inject c fun m => (k m).bind next

instance : Monad Constructor where
  pure := built
  bind := bind

/-- Fails with an error, or builds. -/
def ofExcept : Except Error α → Constructor α
  | .ok a => built a
  | .error e => failed e

/-- Registers a capability, and stops if that fails. -/
def registering (c : Capability) : Constructor MockId := register c ofExcept

/-- Asks for the mock of a capability, and stops if that fails. -/
def injecting (c : Capability) : Constructor MockId := inject c ofExcept

end Constructor

/-- What a flow is built from. -/
structure Blueprint (α : Type) where
  /-- The name of the flow in errors and logs. -/
  name : String
  dependencies : List Capability
  constructor : Constructor α

namespace Act

/-- Hands out the mock of a declared capability. -/
def inject (flow : String) (declared : List Capability) (r : RegistryId) (c : Capability) :
    Act MockId := do
  if !declared.contains c then throw (.undeclaredDependency flow c.name)
  let registry := (← get).registry r
  match registry.mock? c with
  | some m => pure m
  | none => throw (.unsatisfiedDependency flow registry.participant c.name)

/-- Runs a constructor. -/
def construct {α : Type} (flow : String) (declared : List Capability) (r : RegistryId) :
    Constructor α → Act α
  | .built a => pure a
  | .failed e => throw e
  | .register c next => do construct flow declared r (next (← attempt (register r c)))
  | .inject c next => do construct flow declared r (next (← attempt (inject flow declared r c)))

/-- Builds a flow from a registry that has all its dependencies, and seals the registry. The first
dependency that is missing is reported, and then the constructor does not run. -/
def createFlow {α : Type} (r : RegistryId) (flow : Blueprint α) : Act α := do
  let registry := (← get).registry r
  match flow.dependencies.find? fun c => !registry.contains c with
  | some missing =>
    throw (.unsatisfiedDependency flow.name registry.participant missing.name)
  | none =>
    -- The registry is still open while the constructor runs, and stays open if it fails.
    let instantiated ← construct flow.name flow.dependencies r flow.constructor
    modify fun w => w.sealRegistry r
    note (.flowInstantiated flow.name registry.participant flow.dependencies.length)
    return instantiated

end Act

end Rehearsal
