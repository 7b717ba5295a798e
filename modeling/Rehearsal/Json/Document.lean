import Rehearsal.Json.Basic
import Rehearsal.Json.Enclosed
import Rehearsal.Json.NumberReader
import Rehearsal.Json.Place
import Rehearsal.OrderedMap

/-!
# Reading documents

A document is one JSON value of any shape, with nothing but blanks after it. Arrays and objects may
be nested 127 deep. The fields of an object are kept in the order of their names, and of two
fields with one name the later counts.
-/

namespace Rehearsal.Json

/-- How deep arrays and objects may be nested. -/
def maxDepth : Nat := 127

/-- The value of a numeral. -/
def Numeral.toJson : Numeral → Json
  | .integer i => .integer i
  | .float x => .float x

/-- One more field among fields in the order of their names. -/
def addField (value : Reader Json) (name : String) (fields : List (String × Json)) :
    Reader (List (String × Json)) :=
  colon.bind fun _ => value.map fun v => insertEntry name v fields

/-- A value of any shape, where `inner` reads the values inside arrays and objects, or is absent
if they would be nested too deep. -/
def valueAround (inner : Option (Reader Json)) : Reader Json := fun cs =>
  match skipSpace cs with
  | [] => stopAt .endInValue []
  | c :: rest =>
    if c = 'n' then ((word ['u', 'l', 'l']).map fun _ => Json.null) rest
    else if c = 't' then ((word ['r', 'u', 'e']).map fun _ => Json.bool true) rest
    else if c = 'f' then ((word ['a', 'l', 's', 'e']).map fun _ => Json.bool false) rest
    else if c = '-' then ((numeral true).map Numeral.toJson) rest
    else if c.isDigit then ((numeral false).map Numeral.toJson) (c :: rest)
    else if c = '"' then (stringTail.map Json.string) rest
    else if c = '[' then
      match inner with
      | none => stopAt .tooDeep (c :: rest)
      | some inner => ((listTail inner).map Json.array) rest
    else if c = '\x7b' then
      match inner with
      | none => stopAt .tooDeep (c :: rest)
      | some inner => ((objectTail stringKey (addField inner) []).map Json.object) rest
    else stopAt .expectedValue (c :: rest)

/-- A value of any shape with at most so many arrays and objects around each other. -/
def valueWithin : Nat → Reader Json
  | 0 => valueAround none
  | depth + 1 => valueAround (some (valueWithin depth))

/-- A value of any shape. -/
def value : Reader Json := valueWithin maxDepth

/-- Nothing but blanks. -/
def nothingLeft : Reader Unit := fun cs =>
  match skipSpace cs with
  | [] => .ok ((), [])
  | rest => stopAt .trailingCharacters rest

/-- What a reader makes of a text that stops it. -/
def Stop.refusal (text : List Char) (stop : Stop) : Refusal :=
  ⟨stop.fault, some (Place.start.advance (byteLength text - stop.left) text)⟩

/-- All of a text: what a reader takes off its front, and nothing after it but blanks. -/
def whole {α : Type} (r : Reader α) (text : String) : Except Refusal α :=
  match (r.bind fun a => nothingLeft.map fun _ => a) text.toList with
  | .error stop => .error (stop.refusal text.toList)
  | .ok (a, _) => .ok a

/-- The value of a document. -/
def ofText (text : String) : Except Refusal Json := whole value text

end Rehearsal.Json
