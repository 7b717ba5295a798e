import Rehearsal.Capability

/-!
# Registries

The services of one participant: for each registered capability the one mock that stands in for it.
A registry is sealed once a flow has been built from it.
-/

namespace Rehearsal

/-- The number of a mock. Every mock of a rehearsal has its own. -/
abbrev MockId := Nat

/-- The number of a registry. Copies of a registry have the number of the registry they copy. -/
abbrev RegistryId := Nat

/-- The services of a participant. -/
structure Registry where
  participant : String
  services : List (Capability × MockId) := []
  isSealed : Bool := false
  deriving DecidableEq

instance : Inhabited Registry := ⟨{ participant := "" }⟩

namespace Registry

/-- The mock that stands in for a capability. -/
def mock? (r : Registry) (c : Capability) : Option MockId :=
  r.services.lookup c

/-- Whether a capability is registered. -/
def contains (r : Registry) (c : Capability) : Bool :=
  (r.mock? c).isSome

/-- The registry with one more service. -/
def add (r : Registry) (c : Capability) (m : MockId) : Registry :=
  { r with services := r.services ++ [(c, m)] }

/-- The names of the registered capabilities in ascending order, one for each capability. -/
def capabilityNames (r : Registry) : List String :=
  (r.services.map fun s => s.1.name).mergeSort fun a b => decide (a ≤ b)

/-- A registry as a diagnostic shows it. -/
def debug (r : Registry) : String :=
  "MockServiceRegistry \x7b participant: " ++ Text.quoted r.participant ++ ", capabilities: " ++
    Text.quotedList r.capabilityNames ++ ", sealed: " ++ toString r.isSealed ++ " \x7d"

end Registry

end Rehearsal
