import Rehearsal.Json.StringReader

/-!
# Reading arrays and objects

The brackets, commas and colons of arrays and objects, for any reader of what stands between them.
-/

namespace Rehearsal.Json

/-- Whether another item follows, past its comma. The closing bracket is left in place. -/
def itemAhead (first : Bool) : Reader Bool := fun cs =>
  match skipSpace cs with
  | [] => stopAt .endInList []
  | ']' :: rest => .ok (false, ']' :: rest)
  | c :: rest =>
    if first then .ok (true, c :: rest)
    else if c = ',' then
      match skipSpace rest with
      | [] => stopAt .endInValue []
      | ']' :: rest => stopAt .trailingComma (']' :: rest)
      | rest => .ok (true, rest)
    else stopAt .expectedCommaOrBracket (c :: rest)

/-- The closing bracket of an array whose items are read. -/
def endList : Reader Unit := fun cs =>
  match skipSpace cs with
  | [] => stopAt .endInList []
  | ']' :: rest => .ok ((), rest)
  | ',' :: rest =>
    match skipSpace rest with
    | ']' :: rest => stopAt .trailingComma (']' :: rest)
    | rest => stopAt .trailingCharacters rest
  | rest => stopAt .trailingCharacters rest

/-- One more item, or the end of the items. What is read so far is kept in reverse. -/
def itemsTurn {α : Type} (item : Reader α) (read : List α) : Reader (Turn (List α) (List α)) :=
  (itemAhead read.isEmpty).bind fun ahead =>
    if ahead then item.map fun a => .again (a :: read)
    else fun rest => .ok (.done read.reverse, rest)

/-- The items of an array and its closing bracket, after the opening one. -/
def listTail {α : Type} (item : Reader α) : Reader (List α) :=
  (loop (itemsTurn item) []).bind fun items => endList.map fun _ => items

/-- Whether another key follows, past its comma. The closing brace is left in place. -/
def keyAhead (first : Bool) : Reader Bool := fun cs =>
  match skipSpace cs with
  | [] => stopAt .endInObject []
  | '\x7d' :: rest => .ok (false, '\x7d' :: rest)
  | c :: rest =>
    if first then
      if c = '"' then .ok (true, c :: rest) else stopAt .keyMustBeString (c :: rest)
    else if c = ',' then
      match skipSpace rest with
      | [] => stopAt .endInValue []
      | '"' :: rest => .ok (true, '"' :: rest)
      | '\x7d' :: rest => stopAt .trailingComma ('\x7d' :: rest)
      | rest => stopAt .keyMustBeString rest
    else stopAt .expectedCommaOrBrace (c :: rest)

/-- The closing brace of an object whose fields are read. -/
def endObject : Reader Unit := fun cs =>
  match skipSpace cs with
  | [] => stopAt .endInObject []
  | '\x7d' :: rest => .ok ((), rest)
  | ',' :: rest => stopAt .trailingComma (',' :: rest)
  | rest => stopAt .trailingCharacters rest

/-- The colon between a key and its value. -/
def colon : Reader Unit := fun cs =>
  match skipSpace cs with
  | [] => stopAt .endInObject []
  | ':' :: rest => .ok ((), rest)
  | rest => stopAt .expectedColon rest

/-- A key with its quotes. -/
def stringKey : Reader String := fun cs => stringTail (cs.drop 1)

/-- One more entry, or the end of the entries. -/
def entriesTurn {κ σ : Type} (key : Reader κ) (entry : κ → σ → Reader σ) (state : Bool × σ) :
    Reader (Turn (Bool × σ) σ) :=
  (keyAhead state.1).bind fun ahead =>
    if ahead then key.bind fun k => (entry k state.2).map fun s => .again (false, s)
    else fun rest => .ok (.done state.2, rest)

/-- The entries of an object and its closing brace, after the opening one. After each key, `entry`
reads the colon and the value. -/
def objectTail {κ σ : Type} (key : Reader κ) (entry : κ → σ → Reader σ) (s : σ) : Reader σ :=
  (loop (entriesTurn key entry) (true, s)).bind fun s => endObject.map fun _ => s

end Rehearsal.Json
