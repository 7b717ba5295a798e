import Rehearsal.Json.Reader

/-!
# Reading numbers

A whole number that fits in 64 bits is an integer; anything else is a double, made from at most as
many leading digits as fit in 64 bits and a power of ten. `-0` is the double that it looks like.
-/

namespace Rehearsal.Json

/-- A number as it was written. -/
inductive Numeral where
  | integer (i : Int)
  | float (x : Float)

/-- The largest whole number of 64 bits. -/
def maxWord : Nat := Nat.pow 2 64 - 1

/-- The value of a decimal digit. -/
def digitValue (c : Char) : Nat := c.toNat - '0'.toNat

/-- Appends digits to a number while it stays within a bound; the digits after that are left. -/
def gather (bound : Nat) : Nat → List Char → Nat × List Char
  | n, [] => (n, [])
  | n, c :: cs =>
    let next := n * 10 + digitValue c
    if next ≤ bound then gather bound next cs else (n, c :: cs)

/-- Ten to a power that a double can hold, rounded to the nearest double. -/
def powerOfTen (n : Nat) : Float := Float.ofScientific 1 false n

/-- The quotient `significand / 10 ^ n`, one division for each 308 powers. A significand of 64 bits
vanishes after the second. -/
def divideByTens (f : Float) (n : Nat) : Float :=
  if n ≤ 308 then f / powerOfTen n
  else if n ≤ 616 then f / powerOfTen 308 / powerOfTen (n - 308)
  else 0.0

/-- The double of a significand and a power of ten; one that is too large is refused. -/
def ofParts (negative : Bool) (significand : Nat) (exponent : Int) : Except Fault Float :=
  let f := Float.ofNat significand
  let signed := fun x : Float => if negative then -x else x
  if exponent < 0 then .ok (signed (divideByTens f exponent.natAbs))
  else if exponent ≤ 308 then
    let x := f * powerOfTen exponent.natAbs
    if x.isInf then .error .numberOutOfRange else .ok (signed x)
  else if significand = 0 then .ok (signed f)
  else .error .numberOutOfRange

/-- The double of a significand and a power of ten of which all characters are read. -/
def fromParts (negative : Bool) (significand : Nat) (exponent : Int) : Reader Numeral :=
  settle ((ofParts negative significand exponent).map .float)

/-- The digits of an exponent are a number of at most this size. -/
def maxExponent : Nat := Nat.pow 2 31 - 1

/-- The exponent after its letter and sign. The digit with which it grows beyond all bounds makes
the number too large or zero. -/
def exponentDigits (negative : Bool) (significand : Nat) (base : Int) (down : Bool) :
    Reader Numeral
  | [] => stopAt .endInValue []
  | c :: cs =>
    if !c.isDigit then stopAt .invalidNumber (c :: cs)
    else
      let rest := cs.dropWhile Char.isDigit
      match gather maxExponent 0 (c :: cs.takeWhile Char.isDigit) with
      | (e, []) => fromParts negative significand (if down then base - e else base + e) rest
      | (_, beyond) =>
        if significand ≠ 0 && !down then stopAt .numberOutOfRange (beyond ++ rest)
        else .ok (.float (if negative then -0.0 else 0.0), rest)

/-- The exponent after its letter. -/
def exponentTail (negative : Bool) (significand : Nat) (base : Int) : Reader Numeral
  | '+' :: cs => exponentDigits negative significand base false cs
  | '-' :: cs => exponentDigits negative significand base true cs
  | cs => exponentDigits negative significand base false cs

/-- A double of which all digits are read: its exponent, if it has one. -/
def afterDigits (negative : Bool) (significand : Nat) (exponent : Int) : Reader Numeral
  | 'e' :: cs => exponentTail negative significand exponent cs
  | 'E' :: cs => exponentTail negative significand exponent cs
  | cs => fromParts negative significand exponent cs

/-- The places after the point. Digits that no longer fit in 64 bits are dropped. -/
def decimals (negative : Bool) (significand : Nat) (exponent : Int) : Reader Numeral := fun cs =>
  let digits := cs.takeWhile Char.isDigit
  let rest := cs.dropWhile Char.isDigit
  if digits.isEmpty then
    stopAt (if rest.isEmpty then .endInValue else .invalidNumber) rest
  else
    let (gathered, dropped) := gather maxWord significand digits
    let used := digits.length - dropped.length
    afterDigits negative gathered (exponent - used) rest

/-- A number after its whole digits, of which `dropped` did not fit in 64 bits. -/
def afterWhole (negative : Bool) (significand dropped : Nat) : Reader Numeral
  | '.' :: cs => decimals negative significand dropped cs
  | 'e' :: cs => exponentTail negative significand dropped cs
  | 'E' :: cs => exponentTail negative significand dropped cs
  | cs =>
    if dropped = 0 then
      if !negative then .ok (.integer significand, cs)
      else if 0 < significand && significand ≤ Nat.pow 2 63 then .ok (.integer (-significand), cs)
      -- Zero with a sign, or too small for a signed word: only a double can hold it.
      else .ok (.float (-Float.ofNat significand), cs)
    else fromParts negative significand dropped cs

/-- A number after its sign. -/
def numeral (negative : Bool) : Reader Numeral
  | [] => stopAt .endInValue []
  | c :: cs =>
    if c = '0' then
      match cs with
      | next :: _ =>
        if next.isDigit then stopAt .invalidNumber cs else afterWhole negative 0 0 cs
      | [] => afterWhole negative 0 0 cs
    else if c.isDigit then
      let digits := c :: cs.takeWhile Char.isDigit
      let (significand, dropped) := gather maxWord 0 digits
      afterWhole negative significand dropped.length (cs.dropWhile Char.isDigit)
    else stopAt .invalidNumber (c :: cs)

/-- The value of a list of digits. -/
def digitsValue (cs : List Char) : Nat :=
  cs.foldl (fun n c => n * 10 + digitValue c) 0

/-- The digits of a whole number of any size, without a leading zero. -/
def wholeDigits : Reader Nat
  | [] => stopAt .invalidNumber []
  | c :: cs =>
    if c = '0' then
      match cs with
      | next :: _ => if next.isDigit then stopAt .invalidNumber cs else .ok (0, cs)
      | [] => .ok (0, cs)
    else if c.isDigit then
      .ok (digitsValue (c :: cs.takeWhile Char.isDigit), cs.dropWhile Char.isDigit)
    else stopAt .invalidNumber (c :: cs)

/-- Past the digits, the places and the exponent of a number that nobody reads. -/
def skipExponent : Reader Unit := fun cs =>
  let cs :=
    match cs with
    | '+' :: cs => cs
    | '-' :: cs => cs
    | cs => cs
  match cs with
  | [] => stopAt .invalidNumber []
  | c :: cs =>
    if c.isDigit then .ok ((), cs.dropWhile Char.isDigit) else stopAt .invalidNumber (c :: cs)

/-- Past the exponent of a number that nobody reads, if it has one. -/
def skipAfterDigits : Reader Unit
  | 'e' :: cs => skipExponent cs
  | 'E' :: cs => skipExponent cs
  | cs => .ok ((), cs)

/-- Past what follows the whole digits of a number that nobody reads. -/
def skipAfterWhole : Reader Unit
  | '.' :: cs =>
    if (cs.takeWhile Char.isDigit).isEmpty then stopAt .invalidNumber cs
    else skipAfterDigits (cs.dropWhile Char.isDigit)
  | cs => skipAfterDigits cs

/-- Past a number that nobody reads, after its sign. Its size does not matter. -/
def skipNumber : Reader Unit :=
  wholeDigits.bind fun _ => skipAfterWhole

end Rehearsal.Json
