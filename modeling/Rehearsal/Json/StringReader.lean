import Rehearsal.Json.Reader

/-!
# Reading strings

The part of a string after its opening quote, up to and with the closing one. Escapes of code
units outside the Basic Multilingual Plane come in pairs.
-/

namespace Rehearsal.Json

/-- The value of a hexadecimal digit of either case. -/
def hexValue? (c : Char) : Option Nat :=
  if c.isDigit then some (c.toNat - '0'.toNat)
  else if 'a' ≤ c && c ≤ 'f' then some (c.toNat - 'a'.toNat + 10)
  else if 'A' ≤ c && c ≤ 'F' then some (c.toNat - 'A'.toNat + 10)
  else none

/-- The value of four hexadecimal digits at the front of a text, and the text behind them. -/
def hexDigits? : List Char → Option (Nat × List Char)
  | a :: b :: c :: d :: rest =>
    match hexValue? a, hexValue? b, hexValue? c, hexValue? d with
    | some a, some b, some c, some d => some (((a * 16 + b) * 16 + c) * 16 + d, rest)
    | _, _, _, _ => none
  | _ => none

/-- The four hexadecimal digits of an escaped code unit. Four bytes are taken, whatever they are;
with fewer than four bytes left the string has no end. -/
def hexUnit : Reader Nat := fun cs =>
  if byteLength (cs.take 4) < 4 then stopAt .endInString []
  else
    match hexDigits? cs with
    | some (unit, rest) => .ok (unit, rest)
    | none => .error ⟨.invalidEscape, byteLength cs - 4⟩

/-- The second half of a pair, after the high half `high`. -/
def lowHalf (high : Nat) : Reader Char
  | '\\' :: 'u' :: rest =>
    (hexUnit.bind fun low rest =>
      if 0xdc00 ≤ low && low ≤ 0xdfff then
        .ok (Char.ofNat (0x10000 + (high - 0xd800) * 0x400 + (low - 0xdc00)), rest)
      else stopBefore .loneSurrogate rest) rest
  | '\\' :: rest => stopAt (if rest.isEmpty then .endInString else .endOfEscape) rest
  | rest => stopAt (if rest.isEmpty then .endInString else .endOfEscape) rest

/-- The character of an escaped code unit, or of two that make a pair. -/
def unicodeEscape : Reader Char :=
  hexUnit.bind fun unit rest =>
    if 0xdc00 ≤ unit && unit ≤ 0xdfff then stopBefore .loneSurrogate rest
    else if 0xd800 ≤ unit && unit ≤ 0xdbff then lowHalf unit rest
    else .ok (Char.ofNat unit, rest)

/-- The character that the letter of a short escape stands for. -/
def shortEscape? (c : Char) : Option Char :=
  match c with
  | '"' => some '"'
  | '\\' => some '\\'
  | '/' => some '/'
  | 'b' => some '\x08'
  | 'f' => some '\x0c'
  | 'n' => some '\n'
  | 'r' => some '\r'
  | 't' => some '\t'
  | _ => none

/-- What follows a backslash. -/
def escapeTail : Reader Char
  | [] => stopAt .endInString []
  | c :: rest =>
    if c = 'u' then unicodeEscape rest
    else
      match shortEscape? c with
      | some c => .ok (c, rest)
      | none => stopAt .invalidEscape (c :: rest)

/-- One character of a string, or its end. What is read so far is kept in reverse. -/
def stringTurn (read : List Char) : Reader (Turn (List Char) String)
  | [] => stopAt .endInString []
  | c :: rest =>
    if c = '"' then .ok (.done (String.ofList read.reverse), rest)
    else if c = '\\' then (escapeTail.map fun c => .again (c :: read)) rest
    else if c.toNat < 0x20 then stopAt .controlCharacter (c :: rest)
    else .ok (.again (c :: read), rest)

/-- A string after its opening quote. -/
def stringTail : Reader String :=
  loop stringTurn []

/-- What follows a backslash in a string that nobody reads: code units need not pair. -/
def skipEscape : Reader Unit
  | [] => stopAt .endInString []
  | c :: rest =>
    if c = 'u' then (hexUnit.map fun _ => ()) rest
    else
      match shortEscape? c with
      | some _ => .ok ((), rest)
      | none => stopAt .invalidEscape (c :: rest)

/-- One character of a string that nobody reads, or its end. A control is not even taken. -/
def skipStringTurn (_ : Unit) : Reader (Turn Unit Unit)
  | [] => stopAt .endInString []
  | c :: rest =>
    if c = '"' then .ok (.done (), rest)
    else if c = '\\' then (skipEscape.map fun _ => .again ()) rest
    else if c.toNat < 0x20 then stopBefore .controlCharacter (c :: rest)
    else .ok (.again (), rest)

/-- Past a string that nobody reads, after its opening quote. -/
def skipString : Reader Unit :=
  loop skipStringTurn ()

end Rehearsal.Json
