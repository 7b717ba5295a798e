import Rehearsal.Flow.Constructor
import Rehearsal.Flow.Request
import Rehearsal.World.Services

/-!
# The chat flows

One member sends a message, the other records it. The outgoing flow reads its request, finds out who
it runs as, opens a session with the recipient, sends the message and keeps a record. The incoming
flow finds out who it runs as, receives one message and keeps a record.
-/

namespace Rehearsal.Chat

/-- The mocks of an outgoing flow. -/
structure OutgoingFlow where
  messaging : MockId
  marshalling : MockId
  engine : MockId
  persistence : MockId
  deriving DecidableEq

/-- The mocks of an incoming flow. -/
structure IncomingFlow where
  engine : MockId
  persistence : MockId
  deriving DecidableEq

/-- How an outgoing flow is built. -/
def OutgoingFlow.blueprint : Blueprint OutgoingFlow where
  name := "oracle_driver::fixtures::ChatOutgoingFlow"
  dependencies := [.messaging, .marshalling, .engine, .persistence]
  constructor := do
    return ⟨← .injecting .messaging, ← .injecting .marshalling, ← .injecting .engine,
      ← .injecting .persistence⟩

/-- How an incoming flow is built. -/
def IncomingFlow.blueprint : Blueprint IncomingFlow where
  name := "oracle_driver::fixtures::ChatIncomingFlow"
  dependencies := [.engine, .persistence]
  constructor := do
    return ⟨← .injecting .engine, ← .injecting .persistence⟩

/-- What a successful outgoing flow returns. -/
def outgoingResult : String := "dummy_flow_return"

/-- Runs an outgoing flow on a request. It never waits. -/
def OutgoingFlow.call (flow : OutgoingFlow) (request : FlowRequest) : Act String := do
  let parameter ← request.bodyAs flow.marshalling .chatRequest
  let recipient ← Act.ask fun _ => Member.read parameter.recipient
  let own ← Act.nodeName flow.engine
  let session ← Act.initiate flow.messaging recipient
  Act.send session ⟨.chatMessage, ⟨parameter.message⟩⟩
  Act.persist flow.persistence
    ⟨.chatRecord, ⟨.outgoing, own.text, recipient.text, parameter.message⟩⟩
  return outgoingResult

/-- The record that the receiving side keeps. -/
def incomingRecord (own counterparty : Member) (m : Message) : Record :=
  ⟨.incoming, own.text, counterparty.text, m.message⟩

end Rehearsal.Chat
