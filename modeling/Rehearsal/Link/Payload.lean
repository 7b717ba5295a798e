import Rehearsal.Data.Encoding
import Rehearsal.Error

/-!
# Payloads

Values of any kind, and the parcels in which they go from one flow to another without being turned
into text. A parcel says of what kind its content is; whoever opens it checks that, and then the
kind of the content itself.
-/

namespace Rehearsal

/-- A value with its kind. -/
structure Payload where
  kind : Kind
  value : kind.Value

namespace Payload

/-- The value, if it is of that kind. -/
def downcast? (p : Payload) (k : Kind) : Option k.Value :=
  if h : p.kind = k then some (h ▸ p.value) else none

/-- The value as it is shown in an answer. -/
def shown (p : Payload) : String := p.kind.shown p.value

/-- The JSON text of the value. -/
def format (p : Payload) : Except Error String := Error.ofFault (p.kind.format p.value)

end Payload

/-- A value on its way between two flows, and the kind that was recorded for it. -/
structure Parcel where
  tag : Kind
  content : Payload

namespace Parcel

/-- Packs a value: its own kind is recorded. -/
def pack (p : Payload) : Parcel := ⟨p.kind, p⟩

/-- The error of a parcel that is of another kind than the one asked for. -/
def unexpected (p : Parcel) (expected : Kind) : Error :=
  .unexpectedMessageType expected.name p.tag.name

/-- Checks the kind that was recorded. -/
def expectKind (p : Parcel) (expected : Kind) : Except Error Unit :=
  if p.tag = expected then .ok () else .error (p.unexpected expected)

/-- Takes the value out, if it is of that kind, whatever was recorded. The error names what was
recorded, since the value does not tell. -/
def take (p : Parcel) (expected : Kind) : Except Error expected.Value :=
  match p.content.downcast? expected with
  | some v => .ok v
  | none => .error (p.unexpected expected)

/-- Opens a parcel: checks the recorded kind, and then takes the value out. -/
def receive (p : Parcel) (expected : Kind) : Except Error expected.Value := do
  p.expectKind expected
  p.take expected

/-- A parcel as a diagnostic shows it: the value stays hidden. -/
def debug (p : Parcel) : String :=
  "Payload \x7b type: " ++ p.tag.name ++ ", .. \x7d"

end Parcel

end Rehearsal
