import Rehearsal.Json.Fault

/-!
# Readers

A reader takes a value off the front of a text and leaves the rest. Readers work from left to
right and stop at the first fault, so of two faults in a text the earlier one is reported. A reader
sees nothing of the text before it, so it tells where it stopped by what is left.
-/

namespace Rehearsal.Json

/-- Bytes that the characters take in UTF-8. -/
def byteLength (cs : List Char) : Nat :=
  cs.foldl (fun n c => n + c.utf8Size) 0

/-- A fault, and the number of bytes behind the spot where it was noticed. -/
structure Stop where
  fault : Fault
  left : Nat

/-- Takes a value off the front of a text, or stops at a fault. -/
abbrev Reader (α : Type) := List Char → Except Stop (α × List Char)

/-- Stops in front of the text. -/
def stopBefore {α : Type} (fault : Fault) : Reader α :=
  fun cs => .error ⟨fault, byteLength cs⟩

/-- Stops at the first byte of the text, which counts as looked at. An empty text has no first byte,
and there this is no different from stopping in front of it. -/
def stopAt {α : Type} (fault : Fault) : Reader α :=
  fun cs => .error ⟨fault, byteLength cs - 1⟩

/-- What has just been read: a fault in it is noticed behind it. -/
def settle {α : Type} : Except Fault α → Reader α
  | .ok a, cs => .ok (a, cs)
  | .error fault, cs => stopBefore fault cs

/-- The four blanks that may stand between the parts of a JSON text. -/
def isSpace (c : Char) : Bool :=
  c == ' ' || c == '\t' || c == '\n' || c == '\r'

/-- The text from its first character that is no blank. -/
def skipSpace (cs : List Char) : List Char :=
  cs.dropWhile isSpace

/-- What one turn of a loop comes to: another turn, or the end of the loop. -/
inductive Turn (σ α : Type) where
  | again (s : σ)
  | done (a : α)

/-- At most `fuel` turns. -/
def loopFor {σ α : Type} (turn : σ → Reader (Turn σ α)) : Nat → σ → Reader α
  | 0, _, cs => stopBefore .endInValue cs
  | fuel + 1, s, cs =>
    match turn s cs with
    | .error stop => .error stop
    | .ok (.done a, rest) => .ok (a, rest)
    | .ok (.again s, rest) => loopFor turn fuel s rest

/-- Turn after turn until the loop is done. Every turn of a loop here takes a character, so a loop
ends within as many turns as there are characters, and one more. -/
def loop {σ α : Type} (turn : σ → Reader (Turn σ α)) (s : σ) : Reader α :=
  fun cs => loopFor turn (cs.length + 1) s cs

/-- The rest of a word whose first letter has been seen. -/
def word : List Char → Reader Unit
  | [], cs => .ok ((), cs)
  | _ :: _, [] => stopAt .endInValue []
  | letter :: letters, c :: cs =>
    if c = letter then word letters cs else stopAt .expectedIdent (c :: cs)

/-- Read, then go on with what was read. -/
def Reader.bind {α β : Type} (r : Reader α) (next : α → Reader β) : Reader β :=
  fun cs =>
    match r cs with
    | .error stop => .error stop
    | .ok (a, rest) => next a rest

/-- Read, then change what was read. -/
def Reader.map {α β : Type} (f : α → β) (r : Reader α) : Reader β :=
  r.bind fun a rest => .ok (f a, rest)

end Rehearsal.Json
