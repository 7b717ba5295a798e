import Rehearsal.Proofs.World.Exchange

/-!
# What an action that does not wait does to the world

Whatever a body or a test does without waiting comes down to a few things: calls that move no
message, sending, taking a message that is there, and looking for one in vain.
-/

namespace Rehearsal

namespace World

/-- What somebody who is not waiting does, and the messages that move. -/
inductive Acts (me : Waiter) : World → List Transfer → World → Prop where
  | quiet {w w' : World} (h : w.Quiet w') : Acts me w [] w'
  | send {w : World} {s : Session} {p : Payload} (made : w.Made s) :
      Acts me w [.sent s p] (w.send s p)
  | take {w w' : World} {s : Session} {e : Envelope} (made : w.Made s)
      (found : w.lookFor me s = (some e, w')) : Acts me w [.taken s e] w'
  /-- Looks for a message, and gives up as there is none. -/
  | giveUp {w w' : World} {s : Session} (missed : w.lookFor me s = (none, w')) :
      Acts me w [] (w'.withdraw me s)
  | trans {w w' w'' : World} {ts us : List Transfer} (first : Acts me w ts w')
      (second : Acts me w' us w'') : Acts me w (ts ++ us) w''

namespace Acts

variable {me : Waiter} {w w' w'' : World} {ts : List Transfer}

theorem refl (w : World) : Acts me w [] w := .quiet (.refl w)

theorem after (h : w.Quiet w') (acts : Acts me w' ts w'') : Acts me w ts w'' :=
  .trans (.quiet h) acts

theorem before (acts : Acts me w ts w') (h : w'.Quiet w'') : Acts me w ts w'' := by
  simpa using acts.trans (.quiet h)

/-- What is done without waiting is an exchange. -/
theorem exchange (acts : Acts me w ts w') : Exchange w ts w' := by
  induction acts with
  | quiet h => exact .still h.still
  | send made => exact .send made
  | take made found => exact .take made found
  | giveUp missed =>
    exact .still ((still_of_lookFor_none missed).trans (still_withdraw _ _ _))
  | trans _ _ first second => exact first.trans second

end Acts

end World

end Rehearsal
