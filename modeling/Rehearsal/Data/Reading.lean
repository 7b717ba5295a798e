import Rehearsal.Data.Decoding
import Rehearsal.Json.Document
import Rehearsal.Json.Skip

/-!
# Data from JSON text

A value of each kind straight off a text. The reader of a kind knows what it asks for, so a value of
another shape is refused where it starts, before the rest of the text is looked at.
-/

namespace Rehearsal

namespace Json

/-- Stops at a text that starts with something else than what was asked for. A scalar is read
first, so that a mistake in it goes before the mismatch. -/
def refuse {α : Type} (expected : String) : Reader α := fun cs =>
  let other := fun found : Found => (stopBefore (.invalidType found expected) : Reader α)
  match cs with
  | [] => stopAt .endInValue []
  | c :: rest =>
    if c = 'n' then ((word ['u', 'l', 'l']).bind fun _ => other .null) rest
    else if c = 't' then ((word ['r', 'u', 'e']).bind fun _ => other (.bool true)) rest
    else if c = 'f' then ((word ['a', 'l', 's', 'e']).bind fun _ => other (.bool false)) rest
    else if c = '-' then ((numeral true).bind fun n => other n.toJson.found) rest
    else if c.isDigit then ((numeral false).bind fun n => other n.toJson.found) (c :: rest)
    else if c = '"' then (stringTail.bind fun s => other (.string s)) rest
    else if c = '[' then other .sequence (c :: rest)
    else if c = '\x7b' then other .map (c :: rest)
    else stopAt .expectedValue (c :: rest)

/-- The numeral at the front of a text. -/
def number (expected : String) : Reader Numeral := fun cs =>
  match skipSpace cs with
  | [] => stopAt .endInValue []
  | c :: rest =>
    if c = '-' then numeral true rest
    else if c.isDigit then numeral false (c :: rest)
    else refuse expected (c :: rest)

/-- A numeral as a number of a format. -/
def Numeral.asInteger (f : IntFormat) (n : Numeral) : Except Fault f.Value :=
  n.toJson.asInteger f

/-- A number of a format of at most 64 bits. -/
def wordReader (f : IntFormat) : Reader f.Value :=
  (number f.name).bind fun n => settle (n.asInteger f)

/-- A number of a format of 128 bits: digits only, whatever their number. A minus sign is refused
where the format has no negative numbers. -/
def longReader (f : IntFormat) : Reader f.Value := fun cs =>
  let fit := fun i : Int =>
    match f.ofInt? i with
    | some v => settle (.ok v)
    | none => stopBefore .numberOutOfRange
  match skipSpace cs with
  | [] => stopAt .endInValue []
  | '-' :: rest =>
    if f.low = 0 then stopAt .numberOutOfRange ('-' :: rest)
    else (wholeDigits.bind fun n => fit (-(n : Int))) rest
  | rest => (wholeDigits.bind fun n => fit n) rest

/-- A number of a format. -/
def integerReader : (f : IntFormat) → Reader f.Value
  | .u128 => longReader .u128
  | .i128 => longReader .i128
  | f => wordReader f

/-- A double; whole numbers count as doubles. -/
def floatReader : Reader Float :=
  (number "f64").map fun n =>
    match n with
    | .integer i => Float.ofInt i
    | .float x => x

/-- A text, where `expected` names what is asked for. -/
def textReader (expected : String) : Reader String := fun cs =>
  match skipSpace cs with
  | [] => stopAt .endInValue []
  | '"' :: rest => stringTail rest
  | rest => refuse expected rest

/-- A truth value. -/
def boolReader : Reader Bool := fun cs =>
  match skipSpace cs with
  | [] => stopAt .endInValue []
  | 't' :: rest => ((word ['r', 'u', 'e']).map fun _ => true) rest
  | 'f' :: rest => ((word ['a', 'l', 's', 'e']).map fun _ => false) rest
  | rest => refuse "a boolean" rest

/-- The value of the unit kind. -/
def unitReader : Reader Unit := fun cs =>
  match skipSpace cs with
  | [] => stopAt .endInValue []
  | 'n' :: rest => (word ['u', 'l', 'l']) rest
  | rest => refuse "unit" rest

/-- A text of one character. -/
def charReader : Reader Char :=
  (textReader "a character").bind fun s =>
    match s.toList with
    | [c] => settle (.ok c)
    | _ => stopBefore (.invalidValue (.string s) "a character")

/-- Either `null` or a value. -/
def optionalReader {α : Type} (r : Reader α) : Reader (Option α) := fun cs =>
  match skipSpace cs with
  | 'n' :: rest => ((word ['u', 'l', 'l']).map fun _ => none) rest
  | rest => (r.map some) rest

/-- The items of an array. -/
def listReader {α : Type} (item : Reader α) : Reader (List α) := fun cs =>
  match skipSpace cs with
  | [] => stopAt .endInValue []
  | '[' :: rest => listTail item rest
  | rest => refuse "a sequence" rest

/-- The item of that place in an array of a fixed length, where `expected` names what has the
length. That there is none is noticed behind the closing bracket. -/
def itemAt {α : Type} (expected : String) (place : Nat) (item : Reader α) : Reader α :=
  (itemAhead (place == 0)).bind fun ahead =>
    if ahead then item else endList.bind fun _ => stopBefore (.invalidLength place expected)

/-- An array of two items. -/
def pairReader {α β : Type} (first : Reader α) (second : Reader β) : Reader (α × β) := fun cs =>
  let expected := "a tuple of size 2"
  match skipSpace cs with
  | [] => stopAt .endInValue []
  | '[' :: rest =>
    ((itemAt expected 0 first).bind fun a => (itemAt expected 1 second).bind fun b =>
      endList.map fun _ => (a, b)) rest
  | rest => refuse expected rest

/-- An object as a map, in the order of its keys. -/
def mapReader {κ β σ : Type} (key : Reader κ) (item : Reader β) (start : σ) (add : σ → κ → β → σ) :
    Reader σ := fun cs =>
  match skipSpace cs with
  | [] => stopAt .endInValue []
  | '\x7b' :: rest =>
    objectTail key (fun k s => colon.bind fun _ => item.map fun b => add s k b) start rest
  | rest => refuse "a map" rest

/-- A key that is a number between quotes. -/
def numericKey (f : IntFormat) : Reader f.Value := fun cs =>
  match cs.drop 1 with
  | [] => stopBefore .expectedNumericKey []
  | c :: rest =>
    if c == '-' || c.isDigit then
      ((wordReader f).bind fun v rest =>
        match rest with
        | '"' :: rest => .ok (v, rest)
        | rest => stopAt .expectedQuote rest) (c :: rest)
    else stopBefore .expectedNumericKey (c :: rest)

/-- Stops at a key that cannot stay. The object is left first, if it ends there. -/
def refuseKey {α : Type} (fault : Fault) : Reader α := fun cs =>
  match skipSpace cs with
  | '\x7d' :: rest => stopBefore fault rest
  | rest => stopBefore fault rest

/-- A key where none can be right: no string is a pair. -/
def pairKey : Reader (Int × Int) :=
  stringKey.bind fun s => refuseKey (.invalidType (.string s) "a tuple of size 2")

/-- A field of a structure of which `σ` holds the fields read so far. -/
structure FieldReader (σ : Type) where
  name : String
  isSet : σ → Bool
  read : σ → Reader σ

/-- A field that holds a text. -/
def textField {σ : Type} (name : String) (get : σ → Option String)
    (set : σ → String → σ) : FieldReader σ :=
  ⟨name, fun s => (get s).isSome, fun s => (textReader "a string").map (set s)⟩

/-- One entry of a structure given as an object. A field may come once; what is no field is passed
over. -/
def fieldEntry {σ : Type} (fields : List (FieldReader σ)) (name : String) (s : σ) : Reader σ :=
  match fields.find? (·.name == name) with
  | none => colon.bind fun _ => skip.map fun _ => s
  | some field =>
    -- A second value is refused at its key, before it is read.
    if field.isSet s then refuseKey (.duplicateField name)
    else colon.bind fun _ => field.read s

/-- The fields of a structure given as an array, in their order. -/
def fieldsInOrder {σ : Type} (expected : String) : Nat → List (FieldReader σ) → σ → Reader σ
  | _, [], s => fun cs => .ok (s, cs)
  | place, field :: fields, s =>
    (itemAt expected place (field.read s)).bind (fieldsInOrder expected (place + 1) fields)

/-- The value of a field that must be there. -/
def required {α : Type} (name : String) : Option α → Except Fault α
  | some a => .ok a
  | none => .error (.missingField name)

/-- How the length of a structure is named. -/
def lengthText (name : String) (count : Nat) : String :=
  name ++ " with " ++ toString count ++ (if count = 1 then " element" else " elements")

/-- A structure, given as an object or as an array. -/
def structReader {σ α : Type} (name : String) (fields : List (FieldReader σ)) (start : σ)
    (finish : σ → Except Fault α) : Reader α := fun cs =>
  let expected := "struct " ++ name
  match skipSpace cs with
  | [] => stopAt .endInValue []
  | '\x7b' :: rest =>
    ((objectTail stringKey (fieldEntry fields) start).bind fun s => settle (finish s)) rest
  | '[' :: rest =>
    ((fieldsInOrder (lengthText expected fields.length) 0 fields start).bind fun s =>
      endList.bind fun _ => settle (finish s)) rest
  | rest => refuse expected rest

/-- The key of a choice given as an object. -/
def choiceKey : Reader String := fun cs =>
  match skipSpace cs with
  | [] => stopAt .endInObject []
  | '"' :: rest => stringTail rest
  | '\x7d' :: rest => stopAt .expectedValue ('\x7d' :: rest)
  | rest => stopAt .keyMustBeString rest

/-- The closing brace of a choice given as an object. -/
def endChoice : Reader Unit := fun cs =>
  match skipSpace cs with
  | [] => stopBefore .endInObject []
  | '\x7d' :: rest => .ok ((), rest)
  | rest => stopBefore .expectedValue rest

/-- One of several names, given as a string or as an object with the name and `null`. -/
def choiceReader {α : Type} (ofName : String → Except Fault α) : Reader α := fun cs =>
  match skipSpace cs with
  | [] => stopAt .endInValue []
  | '"' :: rest => (stringTail.bind fun s => settle (ofName s)) rest
  | '\x7b' :: rest =>
    (choiceKey.bind fun s => Reader.bind (settle (ofName s)) fun a =>
      colon.bind fun _ => unitReader.bind fun _ => endChoice.map fun _ => a) rest
  | rest => stopAt .expectedValue rest

end Json

namespace Chat

open Json (FieldReader Reader Fault textField structReader required textReader choiceReader)

/-- A direction. -/
def Direction.reader : Reader Direction := choiceReader Direction.ofName

/-- A structure of which some fields may not have been read yet. -/
structure Draft where
  direction : Option Direction := none
  own : Option String := none
  counterparty : Option String := none
  recipient : Option String := none
  message : Option String := none

/-- The text of a message. -/
def messageField : FieldReader Draft :=
  textField "message" (·.message) fun d s => { d with message := some s }

/-- The recipient of a request. -/
def recipientField : FieldReader Draft :=
  textField "recipientX500Name" (·.recipient) fun d s => { d with recipient := some s }

/-- The direction of a record. -/
def directionField : FieldReader Draft :=
  ⟨"direction", fun d => d.direction.isSome,
    fun d => Direction.reader.map fun x => { d with direction := some x }⟩

/-- The keeper of a record. -/
def ownField : FieldReader Draft :=
  textField "local" (·.own) fun d s => { d with own := some s }

/-- The other side of a record. -/
def counterpartyField : FieldReader Draft :=
  textField "counterparty" (·.counterparty) fun d s => { d with counterparty := some s }

/-- A request. -/
def Request.reader : Reader Request :=
  structReader "ChatOutgoingFlowParameter" [recipientField, messageField] {} fun d => do
    return ⟨← required "recipientX500Name" d.recipient, ← required "message" d.message⟩

/-- A message. -/
def Message.reader : Reader Message :=
  structReader "MessageContainer" [messageField] {} fun d => do
    return ⟨← required "message" d.message⟩

/-- A record. -/
def Record.reader : Reader Record :=
  structReader "ChatRecord" [directionField, ownField, counterpartyField, messageField] {}
    fun d => do
      return ⟨← required "direction" d.direction, ← required "local" d.own,
        ← required "counterparty" d.counterparty, ← required "message" d.message⟩

end Chat

namespace Kind

open Json

/-- The reader of a kind. -/
def reader : (k : Kind) → Reader k.Value
  | integer f => integerReader f
  | bool => boolReader
  | float => floatReader
  | char => charReader
  | unit => unitReader
  | text => textReader "a string"
  | lentText => textReader "a string"
  | integers => listReader (integerReader .i64)
  | texts => listReader (textReader "a string")
  | optionalText => optionalReader (textReader "a string")
  | pair => pairReader (integerReader .i64) (textReader "a string")
  | tally => mapReader stringKey (integerReader .i64) .empty .insert
  | labels => mapReader (numericKey .i64) (textReader "a string") .empty .insert
  | pairLabels => mapReader pairKey (textReader "a string") [] fun entries k s => (k, s) :: entries
  | json => Json.value
  | chatRequest => Chat.Request.reader
  | chatMessage => Chat.Message.reader
  | chatDirection => Chat.Direction.reader
  | chatRecord => Chat.Record.reader

/-- The value of a kind that a text holds. -/
def parse (k : Kind) (text : String) : Except Refusal k.Value :=
  whole k.reader text

end Kind

end Rehearsal
