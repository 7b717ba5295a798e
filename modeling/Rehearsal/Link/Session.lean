import Rehearsal.Link.Queue

/-!
# Links and sessions

A link joins two members, called its sides `a` and `b`. Each side has a session: what it sends goes
into the queue of its own side, and it receives from the queue of the other side. Sessions are
values, and copies of a session use the same queues.
-/

namespace Rehearsal

/-- The two sides of a link. -/
inductive Side where
  | a
  | b
  deriving DecidableEq

/-- The opposite side. -/
def Side.other : Side → Side
  | a => b
  | b => a

@[simp] theorem Side.other_other (s : Side) : s.other.other = s := by
  cases s <;> rfl

/-- The queue of a link that holds what one side sends. -/
structure QueueId where
  link : Nat
  sender : Side
  deriving DecidableEq

/-- One side of a link. -/
structure Session where
  link : Nat
  side : Side
  owner : Member
  counterparty : Member
  deriving DecidableEq

namespace Session

/-- Where this side's messages go. -/
def outbound (s : Session) : QueueId := ⟨s.link, s.side⟩

/-- Where this side's messages come from. -/
def inbound (s : Session) : QueueId := ⟨s.link, s.side.other⟩

/-- The session at the other end. -/
def opposite (s : Session) : Session := ⟨s.link, s.side.other, s.counterparty, s.owner⟩

/-- A session as a diagnostic shows it, with the number of messages that it could receive. -/
def debug (s : Session) (pending : Nat) : String :=
  "MockFlowSession \x7b owner: " ++ Text.quoted s.owner.text ++ ", counterparty: " ++
    Text.quoted s.counterparty.text ++ ", pending_inbound: " ++ toString pending ++ " \x7d"

end Session

/-- A link between two members. Every link of a rehearsal has its own number. -/
structure Link where
  number : Nat
  a : Member
  b : Member
  deriving DecidableEq

namespace Link

/-- The session of a side. -/
def session (l : Link) : Side → Session
  | .a => ⟨l.number, .a, l.a, l.b⟩
  | .b => ⟨l.number, .b, l.b, l.a⟩

/-- The queue of what a side sends. -/
def queue (l : Link) (side : Side) : QueueId := ⟨l.number, side⟩

end Link

end Rehearsal
