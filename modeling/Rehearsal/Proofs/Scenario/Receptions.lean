import Rehearsal.Proofs.World.Acts
import Rehearsal.Proofs.World.Calls
import Rehearsal.Scenario.Reception

/-!
# What receptions and chats do to the world

A reception takes one message and may then send one; a chat sends one. Both use only sessions of
links that were made, provided that they were given such.
-/

namespace Rehearsal

variable {α β : Type} {me : Waiter}

namespace World

/-- What somebody does who is not waiting, sending at most so many messages. -/
def Moves (me : Waiter) (n : Nat) (w w' : World) : Prop :=
  w.Linked → ∃ ts, Acts me w ts w' ∧ Transfer.sends ts ≤ n

theorem Quiet.moves {w w' : World} (h : w.Quiet w') (n : Nat) : Moves me n w w' :=
  fun _ => ⟨[], .quiet h, Nat.zero_le n⟩

theorem Moves.trans {w w' w'' : World} {m n : Nat} (h : Moves me m w w')
    (h' : Moves me n w' w'') : Moves me (m + n) w w'' := by
  intro hw
  obtain ⟨ts, acts, bound⟩ := h hw
  obtain ⟨us, acts', bound'⟩ := h' (acts.exchange.linked hw)
  exact ⟨ts ++ us, acts.trans acts', by rw [Transfer.sends_append]; omega⟩

theorem Moves.after {w w' w'' : World} {n : Nat} (h : w.Quiet w') (h' : Moves me n w' w'') :
    Moves me n w w'' := by
  simpa using (h.moves 0).trans h'

theorem Moves.before {w w' w'' : World} {n : Nat} (h : Moves me n w w') (h' : w'.Quiet w'') :
    Moves me n w w'' := by
  simpa using h.trans (h'.moves 0)

theorem moves_send {w : World} {s : Session} (made : w.Made s) (p : Payload) :
    Moves me 1 w (w.send s p) :=
  fun _ => ⟨[.sent s p], .send made, Nat.le_refl 1⟩

end World

namespace Act

/-- Something is done after an action that moves no message. -/
theorem moves_bind {n : Nat} {a : Act α} {f : α → Act β} (ha : a.IsQuiet) {w : World}
    (hf : ∀ x, (a w).1 = .ok x → World.Moves me n (a w).2 (f x (a w).2).2) :
    World.Moves me n w ((a >>= f) w).2 := by
  have quiet := ha w
  rw [bind_apply]
  cases h : a w with
  | mk r w' =>
    rw [h] at quiet hf
    cases r with
    | ok x => exact .after quiet (hf x rfl)
    | error e => exact quiet.moves n

/-- What follows an action that moves messages moves none. -/
theorem moves_bind_quiet {n : Nat} {a : Act α} {f : α → Act β} {w : World}
    (ha : World.Moves me n w (a w).2) (hf : ∀ x, (f x).IsQuiet) :
    World.Moves me n w ((a >>= f) w).2 := by
  rw [bind_apply]
  cases h : a w with
  | mk r w' =>
    rw [h] at ha
    cases r with
    | ok x => exact ha.before (hf x w')
    | error e => exact ha

/-- An outgoing chat sends at most one message, through a session that was attached. -/
theorem moves_outgoing (flow : Chat.OutgoingFlow) (request : FlowRequest) {w : World}
    (hw : w.Linked) : World.Moves me 1 w (flow.call request w).2 := by
  refine moves_bind (quiet_parse _ _ _) fun parameter _ => ?_
  refine moves_bind (quiet_ask _) fun recipient _ => ?_
  refine moves_bind (quiet_nodeName _) fun own _ => ?_
  refine moves_bind (quiet_initiate _ _) fun session opened => ?_
  have linked := (quiet_nodeName flow.engine _).linked
    ((quiet_ask (fun _ => Member.read parameter.recipient) _).linked
      ((quiet_parse flow.marshalling .chatRequest request.body w).linked hw))
  have made := made_of_initiate linked opened
  refine moves_bind_quiet (World.moves_send made _) fun _ => ?_
  exact (quiet_persist _ _).bind fun _ => quiet_pure _

end Act

namespace Reception

/-- A reception whose sessions are of links of the world. -/
def Made (w : World) : Reception → Prop
  | keep s _ => w.Made s
  | relay s target _ => w.Made s ∧ w.Made target
  | record s _ _ => w.Made s

theorem Made.session {w : World} {r : Reception} (h : r.Made w) : w.Made r.session := by
  cases r with
  | keep => exact h
  | relay => exact h.1
  | record => exact h

theorem Made.mono {w w' : World} {r : Reception} (h : r.Made w) (grows : w.links <+: w'.links) :
    r.Made w' := by
  cases r with
  | keep => exact World.Made.mono h grows
  | relay => exact ⟨h.1.mono grows, h.2.mono grows⟩
  | record => exact World.Made.mono h grows

/-- That a reception begins moves no message. -/
theorem quiet_start (r : Reception) (w : World) : w.Quiet (r.start w) := by
  unfold start World.awaitMessage
  split
  · exact .note w ⟨rfl, fun _ => ⟨rfl, rfl⟩⟩
  · exact .refl w

/-- What is done with a value sends at most one message. -/
theorem moves_finish (r : Reception) (v : r.kind.Value) {w : World} (made : r.Made w) :
    World.Moves me 1 w (r.finish v w).2 := by
  cases r with
  | keep s k => exact (World.Quiet.refl w).moves 1
  | relay s target k =>
    exact Act.moves_bind_quiet (World.moves_send made.2 _) fun _ => Act.quiet_pure _
  | record s own persistence =>
    exact Act.moves_bind (Act.quiet_persist _ _) fun _ _ => (World.Quiet.refl _).moves 1

/-- A look that comes to nothing is a look in vain. -/
theorem lookFor_of_look_none {r : Reception} {w w' : World} (h : r.look me w = (none, w')) :
    w.lookFor me r.session = (none, w') := by
  unfold look at h
  split at h
  · next w'' missed =>
    cases h
    exact missed
  · split at h <;> cases h

/-- A look that comes to something finds a message, and what is done with it sends at most one. -/
theorem lookFor_of_look_some {r : Reception} {w w' : World} {result : Except Error Answer}
    (made : r.Made w) (h : r.look me w = (some result, w')) :
    ∃ e w'', w.lookFor me r.session = (some e, w'') ∧ World.Moves me 1 w'' w' := by
  unfold look at h
  split at h
  · cases h
  · next e w'' found =>
    refine ⟨e, w'', found, ?_⟩
    have links : w.links <+: w''.links := (World.Exchange.take made.session found).links
    split at h
    · cases h
      exact (World.Quiet.refl _).moves 1
    · next v _ =>
      cases h
      exact moves_finish r v (made.mono links)

/-- A look that comes to something takes a message and sends at most one. -/
theorem moves_of_look_some {r : Reception} {w w' : World} {result : Except Error Answer}
    (made : r.Made w) (h : r.look me w = (some result, w')) : World.Moves me 1 w w' := by
  obtain ⟨e, w'', found, moves⟩ := lookFor_of_look_some made h
  have taken : World.Moves me 0 w w'' := fun _ =>
    ⟨[.taken r.session e], .take made.session found, Nat.le_refl 0⟩
  have moved := taken.trans moves
  rwa [Nat.zero_add] at moved

/-- A reception that does not wait. -/
theorem moves_lookOnce {r : Reception} {w : World} (made : r.Made w) :
    World.Moves me 1 w (r.lookOnce me w).2 := by
  have begun := quiet_start r w
  have made' := made.mono begun.links
  unfold lookOnce
  split
  · next result w' h => exact .after begun (moves_of_look_some made' h)
  · next w' h =>
    have missed := lookFor_of_look_none h
    exact .after begun fun _ => ⟨[], .giveUp missed, Nat.zero_le 1⟩

end Reception

end Rehearsal
