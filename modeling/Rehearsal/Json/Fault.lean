import Rehearsal.Number.FloatText
import Rehearsal.Text.Quoted

/-!
# What can be wrong with a JSON text

Every reason for which a text is refused, as a cause, and its wording in one place: mistakes of
syntax, values of another shape than the one asked for, and values that no JSON text can hold.
-/

namespace Rehearsal.Json

/-- What was found where something else was asked for. -/
inductive Found where
  | null
  | bool (b : Bool)
  | integer (i : Int)
  | float (x : Float)
  | string (s : String)
  | sequence
  | map

/-- How a found value is named. -/
def Found.text : Found → String
  | .null => "null"
  | .bool b => "boolean `" ++ toString b ++ "`"
  | .integer i => "integer `" ++ toString i ++ "`"
  | .float x => "floating point `" ++ String.ofList (Number.floatText x) ++ "`"
  | .string s => "string " ++ Text.quoted s
  | .sequence => "sequence"
  | .map => "map"

/-- Why a JSON text was refused, or a value not written. -/
inductive Fault where
  /-- The text ends where a value must start or go on. -/
  | endInValue
  | endInList
  | endInObject
  | endInString
  | expectedValue
  /-- A misspelt `null`, `true` or `false`. -/
  | expectedIdent
  | invalidNumber
  | numberOutOfRange
  | expectedCommaOrBracket
  | expectedCommaOrBrace
  | expectedColon
  | expectedQuote
  | trailingComma
  | keyMustBeString
  | expectedNumericKey
  | invalidEscape
  | controlCharacter
  | loneSurrogate
  | endOfEscape
  | trailingCharacters
  /-- Arrays and objects are nested too deep. -/
  | tooDeep
  | invalidType (found : Found) (expected : String)
  | invalidValue (found : Found) (expected : String)
  | invalidLength (length : Nat) (expected : String)
  | missingField (name : String)
  | duplicateField (name : String)
  | unknownVariant (name : String) (known : List String)

/-- The names between backquotes, with `or` between two. -/
def alternatives (names : List String) : String :=
  String.intercalate " or " (names.map fun name => "`" ++ name ++ "`")

/-- The wording of a fault. -/
def Fault.message : Fault → String
  | endInValue => "EOF while parsing a value"
  | endInList => "EOF while parsing a list"
  | endInObject => "EOF while parsing an object"
  | endInString => "EOF while parsing a string"
  | expectedValue => "expected value"
  | expectedIdent => "expected ident"
  | invalidNumber => "invalid number"
  | numberOutOfRange => "number out of range"
  | expectedCommaOrBracket => "expected `,` or `]`"
  | expectedCommaOrBrace => "expected `,` or `\x7d`"
  | expectedColon => "expected `:`"
  | expectedQuote => "expected `\"`"
  | trailingComma => "trailing comma"
  | keyMustBeString => "key must be a string"
  | expectedNumericKey => "invalid value: expected key to be a number in quotes"
  | invalidEscape => "invalid escape"
  | controlCharacter => "control character (\\u0000-\\u001F) found while parsing a string"
  | loneSurrogate => "lone leading surrogate in hex escape"
  | endOfEscape => "unexpected end of hex escape"
  | trailingCharacters => "trailing characters"
  | tooDeep => "recursion limit exceeded"
  | invalidType found expected => "invalid type: " ++ found.text ++ ", expected " ++ expected
  | invalidValue found expected => "invalid value: " ++ found.text ++ ", expected " ++ expected
  | invalidLength length expected =>
    "invalid length " ++ toString length ++ ", expected " ++ expected
  | missingField name => "missing field `" ++ name ++ "`"
  | duplicateField name => "duplicate field `" ++ name ++ "`"
  | unknownVariant name known =>
    "unknown variant `" ++ name ++ "`, expected " ++ alternatives known

end Rehearsal.Json
