import Rehearsal.World.Basic

/-!
# Registering capabilities

Registries in the world: making them, registering capabilities, and looking up mocks. Registering
creates a mock only the first time; looking up never does.
-/

namespace Rehearsal

namespace World

/-- A new registry with these services. -/
def addRegistry (w : World) (participant : String) (services : List (Capability × MockId)) :
    RegistryId × World :=
  let r := w.registryCount
  let w := w.note (.registryCreated r participant services.length)
  (r, { w with
    registries := w.registries.set r { participant, services }
    registryCount := r + 1 })

/-- Adds a capability with a new mock to the services of a registry that is being built, unless it
is there. -/
def addCapability (built : List (Capability × MockId) × World) (c : Capability) :
    List (Capability × MockId) × World :=
  let (services, w) := built
  match services.lookup c with
  | some _ => built
  | none => (services ++ [(c, w.mockCount)], { w with mockCount := w.mockCount + 1 })

/-- The services of a list of capabilities, each with a new mock: one for every capability, however
often it is listed. -/
def freshServices (w : World) (capabilities : List Capability) :
    List (Capability × MockId) × World :=
  capabilities.foldl addCapability ([], w)

/-- Registers a capability with a new mock. -/
def addService (w : World) (r : RegistryId) (c : Capability) : MockId × World :=
  let m := w.mockCount
  let w := { w with
    registries := w.registries.modify r fun registry => registry.add c m
    mockCount := m + 1 }
  (m, w.note (.capabilityRegistered r (w.registry r).participant c))

/-- Seals a registry; only the first time is logged. -/
def sealRegistry (w : World) (r : RegistryId) : World :=
  let registry := w.registry r
  if registry.isSealed then w
  else
    let w := { w with registries := w.registries.set r { registry with isSealed := true } }
    w.note (.registrySealed r registry.participant)

/-- The mock that a registry has for a capability. -/
def mock (w : World) (r : RegistryId) (c : Capability) : Except Error MockId :=
  match (w.registry r).mock? c with
  | some m => .ok m
  | none => .error (.capabilityNotRegistered (w.registry r).participant c.name)

end World

namespace Act

/-- A registry with no service. -/
def newRegistry (participant : String) : Act RegistryId :=
  modifyGet fun w => w.addRegistry participant []

/-- A registry with a new mock for each of the capabilities. -/
def buildRegistry (participant : String) (capabilities : List Capability) : Act RegistryId :=
  modifyGet fun w =>
    let (services, w) := w.freshServices capabilities
    w.addRegistry participant services

/-- The mock of a capability, made now if it is new. A sealed registry takes no new capability. -/
def register (r : RegistryId) (c : Capability) : Act MockId := do
  let registry := (← get).registry r
  match registry.mock? c with
  | some m => pure m
  | none =>
    if registry.isSealed then throw (.registrySealed registry.participant c.name)
    else modifyGet fun w => w.addService r c

/-- The mock of a registered capability. -/
def mock (r : RegistryId) (c : Capability) : Act MockId := ask fun w => w.mock r c

end Act

end Rehearsal
