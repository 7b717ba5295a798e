import Rehearsal.Link.Payload
import Rehearsal.World.Services

/-!
# Requests

The JSON text that a flow is started with. The flow reads it with its marshalling mock.
-/

namespace Rehearsal

/-- The body of a request. -/
structure FlowRequest where
  body : String
  deriving DecidableEq

/-- The request whose body is the JSON text of a value. -/
def FlowRequest.ofPayload (p : Payload) : Except Error FlowRequest := do
  return ⟨← p.format⟩

/-- The value of a kind that the body of a request holds. -/
def FlowRequest.bodyAs (request : FlowRequest) (m : MockId) (k : Kind) : Act k.Value :=
  Act.parse m k request.body

end Rehearsal
