import Rehearsal.Json.Enclosed
import Rehearsal.Json.NumberReader

/-!
# Passing over a value

A value that nobody asked for is passed over without being built. It may be nested to any depth,
its numbers may have any size, and a comma before a closing bracket is a missing value.
-/

namespace Rehearsal.Json

/-- An array or an object that is open. -/
inductive Frame where
  | list
  | object
  deriving DecidableEq

/-- The character that closes a frame. -/
def Frame.closer : Frame → Char
  | list => ']'
  | object => '\x7d'

/-- The fault of a text that ends inside a frame. -/
def Frame.unfinished : Frame → Fault
  | list => .endInList
  | object => .endInObject

/-- The fault of a missing comma. -/
def Frame.unseparated : Frame → Fault
  | list => .expectedCommaOrBracket
  | object => .expectedCommaOrBrace

/-- A key that nobody reads, with its colon. -/
def skipKey : Reader Unit := fun cs =>
  match skipSpace cs with
  | [] => stopAt .endInObject []
  | '"' :: rest => (skipString.bind fun _ => colon) rest
  | rest => stopAt .keyMustBeString rest

/-- Up to where the next value of a frame starts. -/
def Frame.next : Frame → Reader Unit
  | list => fun cs => .ok ((), cs)
  | object => skipKey

/-- Behind a value or an opening bracket: closes all frames that end here. A comma is allowed only
behind a value. -/
def closeFrames : Bool → List Frame → Reader (Turn (List Frame) Unit)
  | _, [] => fun cs => .ok (.done (), cs)
  | behindValue, frame :: frames => fun cs =>
    match skipSpace cs with
    | [] => stopAt frame.unfinished []
    | c :: rest =>
      if c = ',' && behindValue then (frame.next.map fun _ => .again (frame :: frames)) rest
      else if c = frame.closer then closeFrames true frames rest
      else if behindValue then stopAt frame.unseparated (c :: rest)
      else (frame.next.map fun _ => .again (frame :: frames)) (c :: rest)

/-- One value without what it encloses, inside the open frames. -/
def skipTurn (frames : List Frame) : Reader (Turn (List Frame) Unit) := fun cs =>
  match skipSpace cs with
  | [] => stopAt .endInValue []
  | c :: rest =>
    let behind := fun _ : Unit => closeFrames true frames
    if c = 'n' then ((word ['u', 'l', 'l']).bind behind) rest
    else if c = 't' then ((word ['r', 'u', 'e']).bind behind) rest
    else if c = 'f' then ((word ['a', 'l', 's', 'e']).bind behind) rest
    else if c = '-' then (skipNumber.bind behind) rest
    else if c.isDigit then (skipNumber.bind behind) (c :: rest)
    else if c = '"' then (skipString.bind behind) rest
    else if c = '[' then closeFrames false (.list :: frames) rest
    else if c = '\x7b' then closeFrames false (.object :: frames) rest
    else stopAt .expectedValue (c :: rest)

/-- Past a value of any shape. -/
def skip : Reader Unit := loop skipTurn []

end Rehearsal.Json
