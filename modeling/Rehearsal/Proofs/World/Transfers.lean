import Rehearsal.Proofs.World.Calls
import Rehearsal.Proofs.World.Exchange
import Rehearsal.Proofs.World.Operations

/-!
# Messages in histories

Sending and taking move messages, and no other operation does. So the messages that a row of
operations moves can be read off the row, and they balance every queue, through whatever session
values they were sent and taken. Links are only ever added, with numbers of their own.
-/

namespace Rehearsal

/-- The message that an operation moves, if it moves one. -/
def Operation.transfers (w : World) : Operation → List Transfer
  | send s p => [.sent s p]
  | look me s => ((w.lookFor me s).1.map (Transfer.taken s)).toList
  | _ => []

theorem Session.inbound_opposite (s : Session) : s.opposite.inbound = s.outbound := by
  simp [inbound, outbound, opposite]

namespace World

variable {w w' w'' : World} {ts us : List Transfer} {op : Operation} {ops : List Operation}

/-- From one world to the other these messages moved, and links were added. -/
structure Carries (w : World) (ts : List Transfer) (w' : World) : Prop where
  balanced : Balanced w ts w'
  links : w.links <+: w'.links
  linked : w.Linked → w'.Linked

namespace Carries

theorem still (h : w.Still w') : Carries w [] w' := ⟨.still h, h.links, h.linked⟩

theorem trans (h : Carries w ts w') (h' : Carries w' us w'') : Carries w (ts ++ us) w'' :=
  ⟨h.balanced.trans h'.balanced, h.links.trans h'.links, fun linked => h'.linked (h.linked linked)⟩

theorem send (w : World) (s : Session) (p : Payload) : Carries w [.sent s p] (w.send s p) :=
  ⟨.send w s p, links_send w s p ▸ List.prefix_refl _, fun linked => linked.send s p⟩

theorem look (w : World) (me : Waiter) (s : Session) :
    Carries w ((w.lookFor me s).1.map (Transfer.taken s)).toList (w.lookFor me s).2 := by
  rcases found : w.lookFor me s with ⟨_ | e, w'⟩
  · exact .still (still_of_lookFor_none found)
  · have links := links_lookFor w me s
    have linked := fun h : w.Linked => h.lookFor me s
    rw [found] at links linked
    exact ⟨.take found, links ▸ List.prefix_refl _, linked⟩

end Carries

/-- **Every operation** moves only its own message. -/
theorem carries_run (applies : op.Applies w) : Carries w (op.transfers w) (op.run w) := by
  cases op with
  | build participant capabilities =>
    exact .still (Act.quiet_buildRegistry participant capabilities w).still
  | register r c => exact .still (Act.quiet_register r c w).still
  | create r flow => exact .still (Act.quiet_createFlow r flow w).still
  | linkMembers a b => exact .still (Act.quiet_linkMembers a b w).still
  | linkRegistries a b => exact .still (Act.quiet_linkRegistries a b w).still
  | check l => exact .still (Act.quiet_failIfPending l w).still
  | setNodeName m name => exact .still (Act.quiet_setNodeName m name w).still
  | setSubFlow m flow result => exact .still (Act.quiet_setSubFlow m flow result w).still
  | subFlow m flow input => exact .still (Act.quiet_subFlow m flow input w).still
  | initiate m counterparty => exact .still (Act.quiet_initiate m counterparty w).still
  | format m p => exact .still (Act.quiet_format m p w).still
  | parse m k text => exact .still (Act.quiet_parse m k text w).still
  | persist m p => exact .still (Act.quiet_persist m p w).still
  | send s p => exact .send w s p
  | await s expected =>
    refine .still ?_
    show w.Still (w.awaitMessage s expected)
    unfold awaitMessage
    split
    · exact (Quiet.note w ⟨rfl, fun _ => ⟨rfl, rfl⟩⟩).still
    · exact .refl w
  | look me s => exact .look w me s
  | answer me s => exact .still (still_answerCall w me s)
  | withdraw me s => exact .still (still_withdraw w me s)
  | ready waiters => exact .still (still_ready w waiters)
  | note e => exact .still (Quiet.note w (Event.OfDriver.plain applies)).still

/-- A row of operations moves the messages of its operations, one after the other. -/
theorem Undergoes.carries (h : w.Undergoes ops w') :
    Carries w (w.told Operation.transfers ops) w' := by
  induction h with
  | nothing => exact .still (.refl _)
  | next applies _ ih => exact (carries_run applies).trans ih

/-! ## The two ends of a link -/

variable {s s' : Session}

/-- At the other end of a link is found what a session sent, the oldest first. -/
theorem lookFor_opposite (w : World) (me : Waiter) (s : Session) :
    (w.lookFor me s.opposite).1 = (w.queue s.outbound).envelopes.head? := by
  rw [lookFor_head, s.inbound_opposite]

theorem Made.opposite (made : w.Made s) : w.Made s.opposite := by
  obtain ⟨l, hl, side, rfl⟩ := made
  exact ⟨l, hl, side.other, by cases side <;> rfl⟩

/-- Of all sessions of links, only the one at the other end receives what a session sends. -/
theorem Linked.receives_iff (h : w.Linked) (made : w.Made s) (made' : w.Made s') :
    s'.inbound = s.outbound ↔ s' = s.opposite := by
  constructor
  · intro shared
    refine h.session_unique made' made.opposite ?_
    have link : s'.link = s.link := congrArg QueueId.link shared
    have side : s'.side.other = s.side := congrArg QueueId.sender shared
    rw [Session.outbound, link, ← Side.other_other s'.side, side]
    rfl
  · rintro rfl
    exact s.inbound_opposite

/-- Of all sessions of links, only the session itself sends into its queue. -/
theorem Linked.sends_iff (h : w.Linked) (made : w.Made s) (made' : w.Made s') :
    s'.outbound = s.outbound ↔ s' = s :=
  ⟨h.session_unique made' made, fun same => by rw [same]⟩

end World

end Rehearsal
