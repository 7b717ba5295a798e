import Rehearsal.Text.Graphic

/-!
# Quoted text

How a text stands inside a diagnostic: between double quotes, with a short escape for the quote,
the backslash and four controls, and `\u` with the code point in braces for every other character
that is not graphic. An apostrophe stays as it is.
-/

namespace Rehearsal.Text

/-- The code point in lower-case hexadecimal digits. -/
def hex (n : Nat) : List Char :=
  Nat.toDigits 16 n

/-- One character inside the quotes. -/
def escape (c : Char) : List Char :=
  match c with
  | '"' => ['\\', '"']
  | '\\' => ['\\', '\\']
  | '\n' => ['\\', 'n']
  | '\r' => ['\\', 'r']
  | '\t' => ['\\', 't']
  | '\x00' => ['\\', '0']
  | c => if isGraphic c then [c] else '\\' :: 'u' :: '\x7b' :: hex c.toNat ++ ['\x7d']

/-- The text between double quotes. -/
def quoted (s : String) : String :=
  String.ofList ('"' :: s.toList.flatMap escape ++ ['"'])

/-- A list of texts, each quoted, between square brackets. -/
def quotedList (texts : List String) : String :=
  "[" ++ String.intercalate ", " (texts.map quoted) ++ "]"

end Rehearsal.Text
