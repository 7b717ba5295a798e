import Rehearsal.Link.Session
import Rehearsal.Registry

/-!
# Events

What a rehearsal logs. An event holds what happened, with the queue or the registry it happened to;
how it reads, and which of its parts are shown, is decided in one place below.
-/

namespace Rehearsal

/-- Something that is logged. -/
inductive Event where
  | registryCreated (registry : RegistryId) (participant : String) (capabilities : Nat)
  | capabilityRegistered (registry : RegistryId) (participant : String) (capability : Capability)
  | registrySealed (registry : RegistryId) (participant : String)
  | flowInstantiated (flow participant : String) (dependencies : Nat)
  | linkCreated (link : Link)
  | sessionAttached (session : Session)
  /-- A session took the place of one that an earlier link had attached. -/
  | sessionReplaced (session : Session)
  | messageSent (queue : QueueId) (envelope : Envelope) (receiver : Member)
  /-- A receiver found its queue empty. -/
  | messageAwaited (queue : QueueId) (owner : Member) (expected : Kind)
  | messageReceived (queue : QueueId) (envelope : Envelope) (owner : Member)
  | messagesPending (link : Link) (kinds : List Kind)
  | participantStarted (name : String)
  | participantCompleted (name : String)
  | participantFailed (name : String) (error : Error)
  | participantsAborted (names : List String) (timeout : Duration)
  | furtherFailure (error : Error)
  | allCompleted (count : Nat)

/-- How much an event matters. -/
inductive Level where
  | debug
  | info
  | warn
  deriving DecidableEq

/-- The name of a level. -/
def Level.name : Level → String
  | debug => "DEBUG"
  | info => "INFO"
  | warn => "WARN"

/-- An event as it reads in the log. -/
structure LogLine where
  level : Level
  message : String
  fields : List (String × String)

/-- How an event reads in the log. -/
def Event.line : Event → LogLine
  | registryCreated _ participant capabilities =>
    ⟨.debug, "Created mock service registry",
      [("participant", participant), ("capabilities", toString capabilities)]⟩
  | capabilityRegistered _ participant capability =>
    ⟨.debug, "Registered capability mock",
      [("participant", participant), ("capability", capability.name)]⟩
  | registrySealed _ participant =>
    ⟨.debug, "Sealed mock service registry", [("participant", participant)]⟩
  | flowInstantiated flow participant dependencies =>
    ⟨.debug, "Instantiated flow",
      [("flow", flow), ("participant", participant), ("dependencies", toString dependencies)]⟩
  | linkCreated link =>
    ⟨.debug, "Created mock message link", [("a", link.a.text), ("b", link.b.text)]⟩
  | sessionAttached session =>
    ⟨.debug, "Attached session to flow messaging", [("counterparty", session.counterparty.text)]⟩
  | sessionReplaced session =>
    ⟨.warn, "Replaced session attached by an earlier link",
      [("counterparty", session.counterparty.text)]⟩
  | messageSent _ envelope receiver =>
    ⟨.debug, "Sent message",
      [("from", envelope.sender.text), ("to", receiver.text),
        ("sequence", toString envelope.sequence),
        ("payload_type", envelope.parcel.tag.name)]⟩
  | messageAwaited _ owner expected =>
    ⟨.debug, "Waiting for message", [("owner", owner.text), ("expected", expected.name)]⟩
  | messageReceived _ envelope owner =>
    ⟨.debug, "Received message",
      [("owner", owner.text), ("from", envelope.sender.text),
        ("sequence", toString envelope.sequence),
        ("payload_type", envelope.parcel.tag.name)]⟩
  | messagesPending _ kinds =>
    ⟨.warn, "Link still holds unconsumed messages",
      [("pending", toString kinds.length),
        ("payload_types", Text.quotedList (kinds.map Kind.name))]⟩
  | participantStarted name => ⟨.debug, "Starting participant", [("participant", name)]⟩
  | participantCompleted name => ⟨.debug, "Participant completed", [("participant", name)]⟩
  | participantFailed name error =>
    ⟨.warn, "Participant failed", [("participant", name), ("error", error.text)]⟩
  | participantsAborted names timeout =>
    ⟨.warn, "Aborted participants that did not complete",
      [("participants", Text.quotedList names), ("timeout", timeout.text)]⟩
  | furtherFailure error => ⟨.warn, "Additional participant failure", [("error", error.text)]⟩
  | allCompleted count =>
    ⟨.info, "All participants completed", [("participants", toString count)]⟩

end Rehearsal
