import Rehearsal.Json.Fault

/-!
# Where a text is refused

A diagnostic about a text names the line and the column of the spot where the fault was noticed.
Lines count from one. A column is the number of bytes between the start of its line and the spot, so
it may point into the middle of a character.
-/

namespace Rehearsal.Json

/-- A spot in a text. -/
structure Place where
  line : Nat
  column : Nat
  deriving DecidableEq

namespace Place

/-- The spot before all text. -/
def start : Place := ⟨1, 0⟩

/-- The spot so many bytes further on in the text that starts here. -/
def advance (p : Place) : Nat → List Char → Place
  | _, [] => p
  | n, c :: cs =>
    if n = 0 then p
    else if c = '\n' then advance ⟨p.line + 1, 0⟩ (n - 1) cs
    else advance ⟨p.line, p.column + min n c.utf8Size⟩ (n - c.utf8Size) cs

/-- The wording of a place. -/
def text (p : Place) : String :=
  "line " ++ toString p.line ++ " column " ++ toString p.column

end Place

/-- A fault and where it was noticed. What is wrong with a value that is no text has no place. -/
structure Refusal where
  fault : Fault
  place : Option Place := none

/-- The wording of a refusal: the fault, and the place if there is one. -/
def Refusal.message (r : Refusal) : String :=
  match r.place with
  | some p => r.fault.message ++ " at " ++ p.text
  | none => r.fault.message

end Rehearsal.Json
