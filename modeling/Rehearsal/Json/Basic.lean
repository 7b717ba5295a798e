/-!
# JSON values

A value keeps whole numbers and floating-point numbers apart. The fields of an object are a list
in the order in which they are written.
-/

namespace Rehearsal

/-- A JSON value. A floating-point number in one is finite wherever this library builds it. -/
inductive Json where
  | null
  | bool (b : Bool)
  | integer (i : Int)
  | float (x : Float)
  | string (s : String)
  | array (items : List Json)
  | object (fields : List (String × Json))
  deriving Inhabited

namespace Json

/-- The value of the first field of that name. -/
def field? (name : String) : Json → Option Json
  | object fields => fields.lookup name
  | _ => none

end Json

end Rehearsal
