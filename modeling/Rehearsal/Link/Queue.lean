import Rehearsal.Link.Payload

/-!
# Message queues

One direction of a link: the messages that were sent and not yet taken, oldest first, and a bell
for those who wait for one. Ringing the bell calls the waiter that has been parked longest; if
nobody is parked, one permit is kept, and the next who would park looks again instead. However
often the bell rings meanwhile, no second permit is kept.

Sending is `append`, then `ring`. Receiving is `take?`, and if there is nothing `await`, and after a
call `take?` again. Each of these is one step that nothing interrupts.
-/

namespace Rehearsal

/-- A message in a queue: its number there, who sent it, and what. The numbers count up from 0 with
every send into the queue. A counter of 64 bits does not come round: at one send a nanosecond that
takes more than five hundred years. -/
structure Envelope where
  sequence : Nat
  sender : Member
  parcel : Parcel

/-- The value that a message carries. -/
def Envelope.payload (e : Envelope) : Payload := e.parcel.content

/-- Whoever waits for a message: a participant, by its number in the run. -/
abbrev Waiter := Nat

/-- The messages of one direction of a link, and who waits for them. -/
structure Queue where
  envelopes : List Envelope := []
  /-- How often a message was sent here, which is the next number and stays below `2 ^ 64`. -/
  nextSequence : Nat := 0
  /-- The bell rang while nobody was parked. -/
  permit : Bool := false
  /-- Waiters that nobody has called yet, longest waiting first. -/
  parked : List Waiter := []
  /-- Waiters that were called and have not looked again yet. -/
  called : List Waiter := []

namespace Queue

instance : Inhabited Queue := ⟨{}⟩

/-- No message is left. -/
def isEmpty (q : Queue) : Bool := q.envelopes.isEmpty

/-- The message that sending this parcel would append. -/
def nextEnvelope (q : Queue) (sender : Member) (parcel : Parcel) : Envelope :=
  ⟨q.nextSequence, sender, parcel⟩

/-- Appends a message under the next number. -/
def append (q : Queue) (sender : Member) (parcel : Parcel) : Queue :=
  { q with
    envelopes := q.envelopes ++ [q.nextEnvelope sender parcel]
    nextSequence := q.nextSequence + 1 }

/-- Rings the bell: calls the waiter parked longest, or keeps a permit. -/
def ring (q : Queue) : Option Waiter × Queue :=
  match q.parked with
  | [] => (none, { q with permit := true })
  | w :: rest => (some w, { q with parked := rest, called := q.called ++ [w] })

/-- Takes the oldest message. -/
def take? (q : Queue) : Option (Envelope × Queue) :=
  match q.envelopes with
  | [] => none
  | e :: rest => some (e, { q with envelopes := rest })

/-- Uses up the permit, which lets the waiter look again at once, or parks it. -/
def await (q : Queue) (w : Waiter) : Bool × Queue :=
  if q.permit then (true, { q with permit := false })
  else (false, { q with parked := q.parked ++ [w] })

/-- A called waiter is back. -/
def answer (q : Queue) (w : Waiter) : Queue :=
  { q with called := q.called.erase w }

/-- Looks for a message until there is one or the waiter is parked. One permit allows one more look,
and after that none is left. -/
def poll (q : Queue) (w : Waiter) : Option Envelope × Queue :=
  match q.take? with
  | some (e, q) => (some e, q)
  | none =>
    match q.await w with
    | (false, q) => (none, q)
    | (true, q) =>
      -- The permit may be left over from a message that somebody else took.
      match q.take? with
      | some (e, q) => (some e, q)
      | none => (none, (q.await w).2)

/-- A waiter gives up. If it was called, it passes the call on. -/
def withdraw (q : Queue) (w : Waiter) : Option Waiter × Queue :=
  if q.called.contains w then (q.answer w).ring
  else (none, { q with parked := q.parked.erase w })

/-- The recorded kinds of the messages, oldest first. -/
def kinds (q : Queue) : List Kind := q.envelopes.map (·.parcel.tag)

@[simp] theorem envelopes_append (q : Queue) (sender : Member) (parcel : Parcel) :
    (q.append sender parcel).envelopes = q.envelopes ++ [q.nextEnvelope sender parcel] := rfl

@[simp] theorem nextSequence_append (q : Queue) (sender : Member) (parcel : Parcel) :
    (q.append sender parcel).nextSequence = q.nextSequence + 1 := rfl

@[simp] theorem envelopes_ring (q : Queue) : q.ring.2.envelopes = q.envelopes := by
  unfold ring; split <;> rfl

@[simp] theorem nextSequence_ring (q : Queue) : q.ring.2.nextSequence = q.nextSequence := by
  unfold ring; split <;> rfl

@[simp] theorem envelopes_withdraw (q : Queue) (w : Waiter) :
    (q.withdraw w).2.envelopes = q.envelopes := by
  unfold withdraw; split
  · rw [envelopes_ring]; rfl
  · rfl

@[simp] theorem nextSequence_withdraw (q : Queue) (w : Waiter) :
    (q.withdraw w).2.nextSequence = q.nextSequence := by
  unfold withdraw; split
  · rw [nextSequence_ring]; rfl
  · rfl

/-- Where a message is left, a look takes the oldest and changes nothing else. -/
theorem poll_of_cons {q : Queue} {e : Envelope} {rest : List Envelope}
    (h : q.envelopes = e :: rest) (w : Waiter) :
    q.poll w = (some e, { q with envelopes := rest }) := by
  simp [poll, take?, h]

/-- Where no message is left, a look parks the waiter and leaves no permit. -/
theorem poll_of_nil {q : Queue} (h : q.envelopes = []) (w : Waiter) :
    q.poll w = (none, { q with permit := false, parked := q.parked ++ [w] }) := by
  cases hp : q.permit <;> simp [poll, take?, await, h, hp]

end Queue

end Rehearsal
