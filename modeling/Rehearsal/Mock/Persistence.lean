import Rehearsal.Data.Decoding
import Rehearsal.Link.Payload

/-!
# The persistence mock

Stands in for the store of a flow. Entities are kept as JSON under their kind, in the order in which
they came, so that a test can read back exactly what was persisted.
-/

namespace Rehearsal

/-- The entities of a persistence mock. -/
structure Persistence where
  /-- Every entity with its kind, oldest first. -/
  entities : List (Kind × Json) := []

namespace Persistence

instance : Inhabited Persistence := ⟨{}⟩

/-- Whether a store can hold a value: a whole number must fit in 64 bits with or without a sign. -/
def holds : Json → Bool
  | .integer i => -9223372036854775808 ≤ i && i ≤ 18446744073709551615
  | _ => true

/-- The JSON under which a value is kept. -/
def stored (p : Payload) : Except Json.Fault Json := do
  -- Only a number that is the whole value can be of 128 bits, so the top is all there is to check.
  let j ← p.kind.encode p.value
  if holds j then return j else .error .numberOutOfRange

/-- The store with one more entity. -/
def add (store : Persistence) (k : Kind) (j : Json) : Persistence :=
  { store with entities := store.entities ++ [(k, j)] }

/-- The JSON of the entities of a kind, oldest first. -/
def ofKind (store : Persistence) (k : Kind) : List Json :=
  (store.entities.filter fun e => e.1 == k).map (·.2)

/-- The entities of a kind, oldest first. -/
def findAll (store : Persistence) (k : Kind) : Except Json.Fault (List k.Value) :=
  (store.ofKind k).mapM k.decode

/-- The number of entities of a kind. -/
def count (store : Persistence) (k : Kind) : Nat := (store.ofKind k).length

/-- Nothing has been persisted. -/
def isEmpty (store : Persistence) : Bool := store.entities.isEmpty

end Persistence

end Rehearsal
