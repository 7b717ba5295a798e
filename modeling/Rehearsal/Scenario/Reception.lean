import Rehearsal.Scenario.Stage

/-!
# Receptions

An action that needs one message: it begins, looks until there is a message, and then does something
with it. This is the only place where a body waits for others.
-/

namespace Rehearsal

/-- An action that needs one message. -/
inductive Reception where
  /-- Receives a value. -/
  | keep (session : Session) (k : Kind)
  /-- Receives a value on one session and sends it on another. -/
  | relay (session target : Session) (k : Kind)
  /-- Receives a chat message and keeps a record of it. -/
  | record (session : Session) (own : Member) (persistence : MockId)

namespace Reception

/-- Where the message comes from. -/
def session : Reception → Session
  | keep s _ => s
  | relay s _ _ => s
  | record s _ _ => s

/-- The kind that the message must have. -/
def kind : Reception → Kind
  | keep _ k => k
  | relay _ _ k => k
  | record _ _ _ => .chatMessage

/-- What is done with the value. -/
def finish : (r : Reception) → r.kind.Value → Act Answer
  | keep _ k, v => return .text (k.shown v)
  | relay _ target k, v => do
    Act.send target ⟨k, v⟩
    return .text (k.shown v)
  | record s own persistence, m => do
    Act.persist persistence ⟨.chatRecord, Chat.incomingRecord own s.counterparty m⟩
    return .nothing

/-- The reception begins. -/
def start (r : Reception) (w : World) : World := w.awaitMessage r.session r.kind

/-- One look for the message. What comes of it is nothing yet, or how the action ended. -/
def look (r : Reception) (me : Waiter) (w : World) : Option (Except Error Answer) × World :=
  match w.lookFor me r.session with
  | (none, w) => (none, w)
  | (some envelope, w) =>
    match envelope.parcel.receive r.kind with
    | .error e => (some (.error e), w)
    | .ok v =>
      let (result, w) := r.finish v w
      (some result, w)

/-- Begins, looks once, and gives up if there is no message. -/
def lookOnce (r : Reception) (me : Waiter) (w : World) : Option (Except Error Answer) × World :=
  match r.look me (r.start w) with
  | (some result, w) => (some result, w)
  | (none, w) => (none, w.withdraw me r.session)

/-- The reception of an incoming chat flow on a session. -/
def ofIncoming (flow : Chat.IncomingFlow) (s : Session) : Act Reception := do
  return .record s (← Act.nodeName flow.engine) flow.persistence

end Reception

end Rehearsal
