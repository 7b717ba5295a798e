/-!
# The marshalling mock

Stands in for the service that turns data into JSON text and back. It does the real work and counts
the calls, those that fail too.
-/

namespace Rehearsal

/-- The call counts of a marshalling mock. -/
structure Marshalling where
  formatCalls : Nat := 0
  parseCalls : Nat := 0
  deriving DecidableEq

namespace Marshalling

instance : Inhabited Marshalling := ⟨{}⟩

/-- Counts a call to write. -/
def countFormat (m : Marshalling) : Marshalling := { m with formatCalls := m.formatCalls + 1 }

/-- Counts a call to read. -/
def countParse (m : Marshalling) : Marshalling := { m with parseCalls := m.parseCalls + 1 }

end Marshalling

end Rehearsal
