import Rehearsal.Data.Kind
import Rehearsal.Json.Fault
import Rehearsal.Json.Printer

/-!
# Data as JSON

How a value of each kind is written as JSON, and how a value of each kind is shown in an answer.
-/

namespace Rehearsal

namespace Chat

/-- The request as an object, recipient first. -/
def Request.toJson (r : Request) : Json :=
  .object [("recipientX500Name", .string r.recipient), ("message", .string r.message)]

/-- The message as an object. -/
def Message.toJson (m : Message) : Json :=
  .object [("message", .string m.message)]

/-- The record as an object, direction first. -/
def Record.toJson (r : Record) : Json :=
  .object [("direction", .string r.direction.name), ("local", .string r.own),
    ("counterparty", .string r.counterparty), ("message", .string r.message)]

end Chat

namespace Kind

/-- A value as JSON. A number that is no number or infinite becomes `null`; texts by pairs have no
JSON unless there are none, because a key must be a string. -/
def encode : (k : Kind) → k.Value → Except Json.Fault Json
  | integer _, i => .ok (.integer i.val)
  | bool, b => .ok (.bool b)
  | float, x => .ok (if x.isFinite then .float x else .null)
  | char, c => .ok (.string (String.ofList [c]))
  | unit, () => .ok .null
  | text, s => .ok (.string s)
  | lentText, s => .ok (.string s)
  | integers, xs => .ok (.array (xs.map fun i => .integer i.val))
  | texts, xs => .ok (.array (xs.map .string))
  | optionalText, none => .ok .null
  | optionalText, some s => .ok (.string s)
  | pair, (i, s) => .ok (.array [.integer i.val, .string s])
  | tally, m => .ok (.object (m.entries.map fun e => (e.1, .integer e.2.val)))
  | labels, m =>
    .ok (.object (m.entries.map fun e => (String.ofList (Json.integerText e.1.val), .string e.2)))
  | pairLabels, entries => if entries.isEmpty then .ok (.object []) else .error .keyMustBeString
  | json, j => .ok j
  | chatRequest, r => .ok r.toJson
  | chatMessage, m => .ok m.toJson
  | chatDirection, d => .ok (.string d.name)
  | chatRecord, r => .ok r.toJson

/-- The JSON text of a value. -/
def format (k : Kind) (v : k.Value) : Except Json.Fault String :=
  (k.encode v).map Json.text

/-- A value as it is shown: its JSON text, and the name of a number that is no number. A value that
has no JSON text shows why. -/
def shown : (k : Kind) → k.Value → String
  | float, x => String.ofList (Number.floatText x)
  | k, v =>
    match k.format v with
    | .ok written => written
    | .error fault => fault.message

end Kind

end Rehearsal
