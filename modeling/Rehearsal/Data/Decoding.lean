import Rehearsal.Data.Kind
import Rehearsal.Json.Fault
import Rehearsal.Json.NumberReader

/-!
# Data from JSON values

A value of each kind out of a JSON value that is already there, as a store holds it. JSON of
another shape is refused by what it is and what was asked for.
-/

namespace Rehearsal

namespace Json

/-- What a value is, for a diagnostic. -/
def found : Json → Found
  | null => .null
  | bool b => .bool b
  | integer i => .integer i
  | float x => .float x
  | string s => .string s
  | array _ => .sequence
  | object _ => .map

/-- The fault of a value where something else was asked for. -/
def mismatch {α : Type} (expected : String) (j : Json) : Except Fault α :=
  .error (.invalidType j.found expected)

/-- A number of a format. -/
def asInteger (f : IntFormat) : Json → Except Fault f.Value
  | integer i =>
    match f.ofInt? i with
    | some v => .ok v
    | none => .error (.invalidValue (.integer i) f.name)
  | j => j.mismatch f.name

/-- A text. -/
def asText : Json → Except Fault String
  | string s => .ok s
  | j => j.mismatch "a string"

/-- The items of an array, each decoded. -/
def asList {α : Type} (item : Json → Except Fault α) : Json → Except Fault (List α)
  | array items => items.mapM item
  | j => j.mismatch "a sequence"

/-- The field of that name, decoded. -/
def asField {α : Type} (name : String) (decode : Json → Except Fault α) (j : Json) :
    Except Fault α :=
  match j.field? name with
  | some v => decode v
  | none => .error (.missingField name)

/-- The fields of an object, in the order of the names. -/
def asFields (expected : String) : Json → Except Fault (List (String × Json))
  | object fields => .ok fields
  | j => j.mismatch expected

/-- A number that is the name of a field. What is wrong with a name has no place in a text. -/
def asNumericKey (f : IntFormat) (key : String) : Except Fault f.Value :=
  let cs := key.toList
  let startsNumber := cs.head?.any fun c => c == '-' || c.isDigit
  if !startsNumber then .error .expectedNumericKey
  else
    let read := if cs.head? = some '-' then numeral true cs.tail else numeral false cs
    match read with
    | .error stop => .error stop.fault
    | .ok (.float x, _) => .error (.invalidType (.float x) f.name)
    | .ok (.integer i, rest) =>
      match f.ofInt? i with
      | none => .error (.invalidValue (.integer i) f.name)
      | some v => if rest.isEmpty then .ok v else .error .expectedNumericKey

end Json

namespace Chat

/-- The direction of that name. -/
def Direction.ofName? (name : String) : Option Direction :=
  if name = Direction.outgoing.name then some .outgoing
  else if name = Direction.incoming.name then some .incoming
  else none

/-- The names of all directions. -/
def Direction.names : List String := [Direction.outgoing.name, Direction.incoming.name]

/-- The direction of a name, or that it is none. -/
def Direction.ofName (name : String) : Except Json.Fault Direction :=
  match ofName? name with
  | some d => .ok d
  | none => .error (.unknownVariant name names)

/-- A direction out of its name. -/
def Direction.ofJson : Json → Except Json.Fault Direction
  | .string s => ofName s
  | _ => .error .expectedValue

/-- A request out of an object. -/
def Request.ofJson (j : Json) : Except Json.Fault Request := do
  let _ ← j.asFields "struct ChatOutgoingFlowParameter"
  return ⟨← j.asField "recipientX500Name" Json.asText, ← j.asField "message" Json.asText⟩

/-- A message out of an object. -/
def Message.ofJson (j : Json) : Except Json.Fault Message := do
  let _ ← j.asFields "struct MessageContainer"
  return ⟨← j.asField "message" Json.asText⟩

/-- A record out of an object. -/
def Record.ofJson (j : Json) : Except Json.Fault Record := do
  let _ ← j.asFields "struct ChatRecord"
  return ⟨← j.asField "direction" Direction.ofJson, ← j.asField "local" Json.asText,
    ← j.asField "counterparty" Json.asText, ← j.asField "message" Json.asText⟩

end Chat

namespace Kind

/-- A value of a kind out of JSON. -/
def decode : (k : Kind) → Json → Except Json.Fault k.Value
  | integer f, j => j.asInteger f
  | bool, .bool b => .ok b
  | bool, j => j.mismatch "a boolean"
  | float, .float x => .ok x
  | float, .integer i => .ok (Float.ofInt i)
  | float, j => j.mismatch "f64"
  | char, .string s =>
    match s.toList with
    | [c] => .ok c
    | _ => .error (.invalidValue (.string s) "a character")
  | char, j => j.mismatch "a character"
  | unit, .null => .ok ()
  | unit, j => j.mismatch "unit"
  | text, j => j.asText
  | lentText, j => j.asText
  | integers, j => j.asList (Json.asInteger .i64)
  | texts, j => j.asList Json.asText
  | optionalText, .null => .ok none
  | optionalText, j => j.asText.map some
  | pair, .array [a, b] => do return (← a.asInteger .i64, ← b.asText)
  | pair, .array items => .error (.invalidLength items.length "a tuple of size 2")
  | pair, j => j.mismatch "a tuple of size 2"
  | tally, j => do
    let fields ← j.asFields "a map"
    let entries ← fields.mapM fun e => do return (e.1, ← e.2.asInteger .i64)
    return .ofList entries
  | labels, j => do
    let fields ← j.asFields "a map"
    let entries ← fields.mapM fun e => do return (← Json.asNumericKey .i64 e.1, ← e.2.asText)
    return .ofList entries
  | pairLabels, j => do
    match ← j.asFields "a map" with
    | [] => return []
    | (name, _) :: _ => .error (.invalidType (.string name) "a tuple of size 2")
  | json, j => .ok j
  | chatRequest, j => Chat.Request.ofJson j
  | chatMessage, j => Chat.Message.ofJson j
  | chatDirection, j => Chat.Direction.ofJson j
  | chatRecord, j => Chat.Record.ofJson j

end Kind

end Rehearsal
