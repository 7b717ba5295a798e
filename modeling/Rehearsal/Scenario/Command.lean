import Rehearsal.Flow.Scripted
import Rehearsal.Scenario.Inquiry
import Rehearsal.Scenario.Reception

/-!
# Commands

The steps of a scenario that act on the stage and do not wait: on registries and flows, on mocks, on
links and sessions.
-/

namespace Rehearsal

/-- Which flow is built. -/
inductive FlowChoice where
  | outgoing
  | incoming
  | scripted (flow : ScriptedFlow)

/-- What a flow is called with. Each flow takes the part that it needs. -/
structure CallInput where
  request : Option RequestSource := none
  session : Option String := none

/-- A step on the stage. Registries, links, sessions and flows are given by their names. -/
inductive Command where
  | inquire (question : Inquiry)
  | assertLast (which : Assertion)
  | newRegistry (registry participant : String)
  | buildRegistry (registry participant : String) (capabilities : List Capability)
      (nodeName : Option String)
  | copyRegistry (registry source : String)
  | register (registry : String) (c : Capability)
  | lookUp (registry : String) (c : Capability)
  | contains (registry : String) (c : Capability)
  | describeRegistry (registry : String)
  | createFlow (registry : String) (choice : FlowChoice) (flow : Option String)
  | setNodeName (registry name : String)
  | nodeName (registry : String)
  | setSubFlow (registry flow : String) (result : Json)
  | subFlow (registry flow : String) (input : Json)
  | subFlowCalls (registry : String)
  | initiate (registry counterparty : String) (session : Option String)
  | initiated (registry : String)
  | wasInitiated (registry counterparty : String)
  | format (registry : Option String) (p : Payload)
  /-- Reads a text with the marshalling mock, as a flow reads its request. -/
  | parse (registry : Option String) (k : Kind) (text : String)
  | marshallingCalls (registry : String)
  | persist (registry : String) (p : Payload)
  | findAll (registry : String) (k : Kind)
  | count (registry : String) (k : Kind)
  | isEmpty (registry : String)
  | linkRegistries (link a b : String)
  | linkMembers (link a b : String)
  | sessions (link a b : String)
  | takeSession (link : String) (side : Side) (session : String)
  | copySession (session copy : String)
  | sameLink (link other : String)
  | describeLink (link : String)
  | assertNonePending (link : String)
  | describeSession (session : String)
  | send (session : String) (p : Payload)
  /-- Receives if there is a message, and does not wait for one. -/
  | receive (session : String) (k : Kind)
  /-- Calls a flow, which gives up if it would have to wait. -/
  | call (flow : String) (input : CallInput)

namespace Play

/-- The mock of a capability of a named registry. -/
def mock (registry : String) (c : Capability) : Play MockId := do
  act (Act.mock (← Play.registry registry) c)

/-- A member name. -/
def member (name : String) : Play Member := act (Act.ask fun _ => Member.read name)

/-- Builds a registry, and stubs the name that its engine runs as if one is given. -/
def buildRegistry (participant : String) (capabilities : List Capability)
    (nodeName : Option String) : Play RegistryId := do
  let r ← act (Act.buildRegistry participant capabilities)
  match nodeName with
  | none => return r
  | some name =>
    let engine ← act (Act.mock r .engine)
    let own ← member name
    act (Act.setNodeName engine own)
    return r

/-- Builds a flow. -/
def createFlow (r : RegistryId) (name : Option String) : FlowChoice → Play Answer
  | .outgoing => do
    storeFlow name (.outgoing (← act (Act.createFlow r Chat.OutgoingFlow.blueprint)))
    return .nothing
  | .incoming => do
    storeFlow name (.incoming (← act (Act.createFlow r Chat.IncomingFlow.blueprint)))
    return .nothing
  | .scripted flow => do
    let mocks ← act (Act.createFlow r flow.blueprint)
    storeFlow name .scripted
    let participant := ((← get).world.registry r).participant
    return .built participant (← showMocks mocks)

/-- A link as an answer shows it. Asking whether messages are pending may log that some are. -/
def describeLink (l : Link) : Play Answer := do
  let w := (← get).world
  let failIfPending ← act (Act.attempt (Act.failIfPending l))
  let side := fun s => (l.session s).debug (w.pendingInbound (l.session s))
  return .link {
    pending := w.pendingMessages l
    types := (w.pendingKinds l).map Kind.name
    failIfPending
    debug := "MockMessageLink \x7b id: <id>, session_a: " ++ side .a ++ ", session_b: " ++
      side .b ++ " \x7d" }

/-- Asserts that every message on a link was taken, and names the kinds of those that were not. -/
def assertNonePending (l : Link) : Play Answer := do
  match ← act (Act.attempt (Act.failIfPending l)) with
  | .ok () => return .nothing
  | .error e =>
    let types := ((← get).world.pendingKinds l).map Kind.name
    throw (.assertion (e.text ++ ": " ++ Text.quotedList types))

/-- A session as an answer shows it. -/
def describeSession (s : Session) : Play Answer := do
  let pendingInbound := (← get).world.pendingInbound s
  return .session {
    owner := s.owner.text
    counterparty := s.counterparty.text
    pendingInbound
    debug := s.debug pendingInbound }

/-- Begins a reception and looks once. -/
def lookOnce (me : Waiter) (r : Reception) : Play Answer := fun stage =>
  match r.lookOnce me stage.world with
  | (some (.ok a), world) => (.ok a, { stage with world })
  | (some (.error e), world) => (.error (.error e), { stage with world })
  | (none, world) => (.ok .pending, { stage with world })

/-- What a call of a flow comes to: an answer, or a reception that it goes on with. -/
inductive Called where
  | answered (a : Answer)
  | receives (r : Reception)

/-- A part of the input of a call that the flow needs. -/
def needed {α : Type} (part : String) : Option α → Play α
  | some a => pure a
  | none => throw (.unknown part)

/-- Calls a flow up to where it may wait. -/
def call (name : String) (input : CallInput) : Play Called := do
  match ← flow name with
  | .outgoing f =>
    let source ← needed "the request of a call" input.request
    let request ← act (Act.ask fun _ => source.request)
    return .answered (.text (← act (f.call request)))
  | .incoming f =>
    let s ← session (← needed "the session of a call" input.session)
    return .receives (← act (Reception.ofIncoming f s))
  | .scripted => return .answered .nothing

end Play

open Play in
/-- Carries out a command on behalf of a participant. -/
def Command.run (me : Waiter) : Command → Play Answer
  | inquire question => fun stage => (question.answer, stage)
  | assertLast which => do
    match (← get).lastRun with
    | some result => fun stage => (Inquiry.assertionReport which result, stage)
    | none => throw (.unknown "the last run")
  | newRegistry r participant => do
    storeRegistry r (← act (Act.newRegistry participant))
    return .nothing
  | buildRegistry r participant capabilities own => do
    storeRegistry r (← Play.buildRegistry participant capabilities own)
    return .nothing
  | copyRegistry r source => do
    storeRegistry r (← registry source)
    return .nothing
  | register r c => do
    return .mock (← showMock (← act (Act.register (← registry r) c)))
  | lookUp r c => do
    return .mock (← showMock (← mock r c))
  | contains r c => do
    let r ← registry r
    return .flag (((← get).world.registry r).contains c)
  | describeRegistry r => do
    let r ← registry r
    let found := (← get).world.registry r
    return .registry {
      participant := found.participant
      capabilities := found.capabilityNames
      isSealed := found.isSealed
      debug := found.debug }
  | createFlow r choice name => do Play.createFlow (← registry r) name choice
  | setNodeName r name => do
    let engine ← mock r .engine
    act (Act.setNodeName engine (← member name))
    return .nothing
  | nodeName r => do
    let engine ← mock r .engine
    return .member (← act (Act.nodeName engine))
  | setSubFlow r flow result => do
    act (Act.setSubFlow (← mock r .engine) flow result)
    return .nothing
  | subFlow r flow input => do
    return .text (← act (Act.subFlow (← mock r .engine) flow input)).text
  | subFlowCalls r => do
    let engine ← mock r .engine
    let calls := ((← get).world.engines.get engine).calls
    return .calls (calls.map fun c => (c.flow, c.input.text))
  | initiate r counterparty name => do
    let messaging ← mock r .messaging
    let opened ← act (Act.initiate messaging (← member counterparty))
    if let some name := name then storeSession name opened
    return .opened opened
  | initiated r => do
    let messaging ← mock r .messaging
    return .texts (((← get).world.messagings.get messaging).initiated.map Member.text)
  | wasInitiated r counterparty => do
    let messaging ← mock r .messaging
    let counterparty ← member counterparty
    return .flag (((← get).world.messagings.get messaging).wasInitiated counterparty)
  | format none p => do
    return .text (← act (Act.ask fun _ => p.format))
  | format (some r) p => do
    return .text (← act (Act.format (← mock r .marshalling) p))
  | parse none k text => do
    return .text (k.shown (← act (Act.ask fun _ => Error.ofRefusal (k.parse text))))
  | parse (some r) k text => do
    return .text (k.shown (← act (Act.parse (← mock r .marshalling) k text)))
  | marshallingCalls r => do
    let marshalling ← mock r .marshalling
    return .marshalling ((← get).world.marshallings.get marshalling)
  | persist r p => do
    act (Act.persist (← mock r .persistence) p)
    return .nothing
  | findAll r k => do
    return .texts ((← act (Act.findAll (← mock r .persistence) k)).map k.shown)
  | count r k => do
    let persistence ← mock r .persistence
    return .count (((← get).world.persistences.get persistence).count k)
  | isEmpty r => do
    let persistence ← mock r .persistence
    return .flag ((← get).world.persistences.get persistence).isEmpty
  | linkRegistries name a b => do
    let a ← registry a
    let b ← registry b
    storeLink name (← act (Act.linkRegistries a b))
    return .nothing
  | linkMembers name a b => do
    let a ← member a
    let b ← member b
    storeLink name (← act (Act.linkMembers a b))
    return .nothing
  | sessions name a b => do
    let l ← link name
    storeSession a (l.session .a)
    storeSession b (l.session .b)
    return .nothing
  | takeSession name side as => do
    storeSession as ((← link name).session side)
    return .nothing
  | copySession name copy => do
    storeSession copy (← session name)
    return .nothing
  | sameLink name other => do
    let l ← link name
    return .flag (decide (l.number = (← link other).number))
  | describeLink name => do Play.describeLink (← link name)
  | assertNonePending name => do Play.assertNonePending (← link name)
  | describeSession name => do Play.describeSession (← session name)
  | send name p => do
    act (Act.send (← session name) p)
    return .nothing
  | receive name k => do lookOnce me (.keep (← session name) k)
  | call name input => do
    match ← Play.call name input with
    | .answered a => return a
    | .receives r => lookOnce me r

end Rehearsal
