import Rehearsal.World.Registries

/-!
# Messages in the world

Making links, sending, and receiving. A receive is split where it may wait: `awaitMessage` when it
begins, then `lookFor` each time it looks, until one look finds a message.
-/

namespace Rehearsal

namespace World

/-- Appends a message to a queue and rings its bell. Whoever is called can go on. -/
def push (w : World) (q : QueueId) (sender : Member) (parcel : Parcel) : World :=
  let (called, queue) := ((w.queue q).append sender parcel).ring
  { w with queues := w.queues.set q queue, ready := w.ready ++ called.toList }

/-- Sends a parcel through a session. -/
def sendParcel (w : World) (s : Session) (parcel : Parcel) : World :=
  let envelope := (w.queue s.outbound).nextEnvelope s.owner parcel
  (w.push s.outbound s.owner parcel).note (.messageSent s.outbound envelope s.counterparty)

/-- Packs a value and sends it through a session. -/
def send (w : World) (s : Session) (payload : Payload) : World := w.sendParcel s (.pack payload)

/-- A receive begins; that it will wait is logged. -/
def awaitMessage (w : World) (s : Session) (expected : Kind) : World :=
  if (w.queue s.inbound).isEmpty then w.note (.messageAwaited s.inbound s.owner expected) else w

/-- One look of a receiver: takes the oldest message, or leaves the receiver parked. -/
def lookFor (w : World) (me : Waiter) (s : Session) : Option Envelope × World :=
  let (found, queue) := (w.queue s.inbound).poll me
  let w := { w with queues := w.queues.set s.inbound queue }
  match found with
  | some envelope => (some envelope, w.note (.messageReceived s.inbound envelope s.owner))
  | none => (none, w)

/-- A receiver that was called is back. -/
def answerCall (w : World) (me : Waiter) (s : Session) : World :=
  { w with queues := w.queues.modify s.inbound (·.answer me) }

/-- A receiver gives up waiting. -/
def withdraw (w : World) (me : Waiter) (s : Session) : World :=
  let (called, queue) := (w.queue s.inbound).withdraw me
  { w with queues := w.queues.set s.inbound queue, ready := w.ready ++ called.toList }

/-- How many messages wait for a side of a link. -/
def pendingInbound (w : World) (s : Session) : Nat := (w.queue s.inbound).envelopes.length

/-- The kinds of all messages on a link that nobody has taken, those from side `a` first. -/
def pendingKinds (w : World) (l : Link) : List Kind :=
  (w.queue (l.queue .a)).kinds ++ (w.queue (l.queue .b)).kinds

/-- How many messages on a link nobody has taken. -/
def pendingMessages (w : World) (l : Link) : Nat :=
  (w.queue (l.queue .a)).envelopes.length + (w.queue (l.queue .b)).envelopes.length

/-- A new link between two members, empty in both directions. -/
def addLink (w : World) (a b : Member) : Link × World :=
  let link : Link := ⟨w.linkCount, a, b⟩
  (link, { w.note (.linkCreated link) with linkCount := w.linkCount + 1 })

/-- Attaches a session to a messaging mock, in place of any other for the same counterparty. -/
def attach (w : World) (m : MockId) (s : Session) : World :=
  let messaging := w.messagings.get m
  let w := { w with messagings := w.messagings.set m (messaging.attach s) }
  match messaging.session? s.counterparty with
  | some _ => w.note (.sessionReplaced s)
  | none => w.note (.sessionAttached s)

/-- Attaches a session to a registry's messaging mock, if it has one. -/
def attachTo (w : World) (r : RegistryId) (s : Session) : World :=
  match (w.registry r).mock? .messaging with
  | some m => w.attach m s
  | none => w

/-- The name that the engine of a registry runs as. -/
def memberOf (w : World) (r : RegistryId) : Except Error Member := do
  (w.engines.get (← w.mock r .engine)).virtualNodeName

end World

namespace Act

/-- Sends a value through a session. -/
def send (s : Session) (payload : Payload) : Act Unit := modify fun w => w.send s payload

/-- A link between two members. -/
def linkMembers (a b : Member) : Act Link := modifyGet fun w => w.addLink a b

/-- A link between the members that two registries run as. Each side's session is attached to the
messaging mock of its registry, if it has one. -/
def linkRegistries (a b : RegistryId) : Act Link := do
  -- Both names come first: if one is missing, no link is made and nothing is logged.
  let memberA ← ask fun w => w.memberOf a
  let memberB ← ask fun w => w.memberOf b
  let link ← linkMembers memberA memberB
  modify fun w => (w.attachTo a (link.session .a)).attachTo b (link.session .b)
  return link

/-- Fails unless every message on a link was taken. -/
def failIfPending (l : Link) : Act Unit := do
  let w ← get
  if w.pendingMessages l = 0 then return
  note (.messagesPending l (w.pendingKinds l))
  throw (.unconsumedMessages (w.pendingMessages l))

end Act

end Rehearsal
