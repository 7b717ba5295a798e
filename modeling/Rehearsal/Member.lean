import Rehearsal.Text.Blank

/-!
# Member names

A member of the network is named by attributes: `O`, `L` and `C` are mandatory, `CN`, `OU` and
`ST` are optional. A name is read from `KEY=value` parts between commas, in any order, with any
case of the keys and any blanks around keys and values, and is shown in one canonical order. Names
are equal when their attributes are.
-/

namespace Rehearsal

/-- The name of a member. -/
structure Member where
  commonName : Option String
  organizationUnit : Option String
  organization : String
  locality : String
  state : Option String
  country : String
  deriving DecidableEq

namespace Member

/-- The attributes of a name. -/
inductive Attribute where
  | commonName
  | organizationUnit
  | organization
  | locality
  | state
  | country
  deriving DecidableEq

/-- The key of an attribute in a text. -/
def Attribute.key : Attribute → String
  | commonName => "CN"
  | organizationUnit => "OU"
  | organization => "O"
  | locality => "L"
  | state => "ST"
  | country => "C"

/-- The attribute of an upper-case key. -/
def Attribute.ofKey? (key : String) : Option Attribute :=
  [commonName, organizationUnit, organization, locality, state, country].find? (·.key = key)

/-- Why a text is no member name. -/
inductive Fault where
  /-- A part has no `=`. -/
  | noPair
  | emptyValue
  | unsupported (key : String)
  | duplicate
  | missing (a : Attribute)
  | badCountry
  deriving DecidableEq

/-- The wording of a fault. -/
def Fault.reason : Fault → String
  | noPair => "attributes must be KEY=value pairs"
  | emptyValue => "attribute values must not be empty"
  | unsupported key => "unsupported attribute '" ++ key ++ "'"
  | duplicate => "duplicate attribute"
  | missing a => "missing " ++ a.key ++ " attribute"
  | badCountry => "C must be a two-letter upper-case country code"

/-- Attributes in the order in which they were given. -/
abbrev Attributes := List (Attribute × String)

/-- The attribute of one part. The value starts behind the first `=`. -/
def parsePart (part : List Char) : Except Fault (Attribute × String) :=
  match part.dropWhile (· != '=') with
  | [] => .error .noPair
  | _ :: behind =>
    let value := Text.trim behind
    if value.isEmpty then .error .emptyValue
    else
      let key := String.ofList ((Text.trim (part.takeWhile (· != '='))).map Char.toUpper)
      match Attribute.ofKey? key with
      | none => .error (.unsupported key)
      | some a => .ok (a, String.ofList value)

/-- The attributes of all parts, behind those already given; none may be given twice. -/
def collect (given : Attributes) : List (List Char) → Except Fault Attributes
  | [] => .ok given
  | part :: parts =>
    match parsePart part with
    | .error fault => .error fault
    | .ok (a, value) =>
      if (given.lookup a).isSome then .error .duplicate
      else collect (given ++ [(a, value)]) parts

/-- The value of a mandatory attribute. -/
def Attributes.require (attributes : Attributes) (a : Attribute) : Except Fault String :=
  match attributes.lookup a with
  | some value => .ok value
  | none => .error (.missing a)

/-- Two upper-case ASCII letters. -/
def isCountryCode (s : String) : Bool :=
  s.toList.length == 2 && s.toList.all Char.isUpper

/-- The name with these attributes. -/
def ofAttributes (attributes : Attributes) : Except Fault Member := do
  let organization ← attributes.require .organization
  let locality ← attributes.require .locality
  let country ← attributes.require .country
  if !isCountryCode country then .error .badCountry
  return {
    commonName := attributes.lookup .commonName
    organizationUnit := attributes.lookup .organizationUnit
    organization, locality
    state := attributes.lookup .state
    country }

/-- Reads a name. The first part that offends is reported, and only if none does, what is missing
or wrong as a whole. -/
def parse (s : String) : Except Fault Member := do
  ofAttributes (← collect [] (s.toList.splitOn ','))

/-- The attributes of a name in canonical order. -/
def attributes (m : Member) : Attributes :=
  (m.commonName.map fun s => (Attribute.commonName, s)).toList ++
    (m.organizationUnit.map fun s => (Attribute.organizationUnit, s)).toList ++
    [(.organization, m.organization), (.locality, m.locality)] ++
    (m.state.map fun s => (Attribute.state, s)).toList ++ [(.country, m.country)]

/-- The canonical text of a name. -/
def text (m : Member) : String :=
  String.intercalate ", " (m.attributes.map fun a => a.1.key ++ "=" ++ a.2)

end Member

end Rehearsal
