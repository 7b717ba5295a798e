import Rehearsal.Link.Session

/-!
# The messaging mock

Stands in for the service that opens sessions with other members. Links attach sessions to it, the
latest for a counterparty counts, and every attempt to open one is kept.
-/

namespace Rehearsal

/-- The sessions and the record of a messaging mock. -/
structure Messaging where
  /-- Attached sessions by counterparty, latest first. -/
  sessions : List (Member × Session) := []
  /-- The members asked for, oldest first. -/
  initiated : List Member := []

namespace Messaging

instance : Inhabited Messaging := ⟨{}⟩

/-- The session attached for a counterparty. -/
def session? (m : Messaging) (counterparty : Member) : Option Session :=
  m.sessions.lookup counterparty

/-- Attaches a session for its counterparty. -/
def attach (m : Messaging) (s : Session) : Messaging :=
  { m with sessions := (s.counterparty, s) :: m.sessions }

/-- Keeps an attempt to open a session. -/
def record (m : Messaging) (counterparty : Member) : Messaging :=
  { m with initiated := m.initiated ++ [counterparty] }

/-- The session with a counterparty. -/
def session (m : Messaging) (counterparty : Member) : Except Error Session :=
  match m.session? counterparty with
  | some s => .ok s
  | none => .error (.noSessionForCounterparty counterparty.text)

/-- Whether a session with this member was asked for. -/
def wasInitiated (m : Messaging) (counterparty : Member) : Bool :=
  m.initiated.contains counterparty

end Messaging

end Rehearsal
