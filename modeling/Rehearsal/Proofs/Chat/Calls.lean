import Rehearsal.Proofs.Chat.Attempts
import Rehearsal.Proofs.Chat.Couples

/-!
# Calls of the chat flows

What a call of a chat flow does for a couple that is joined. `Along` says how far messages have come
since some moment: which were recorded by both, and which are on their way. A call of the outgoing
flow sets one more on its way; a reception of the incoming flow records the first that is on its
way, and waits if there is none.
-/

namespace Rehearsal

namespace Reception

variable {x : Reception} {me : Waiter} {w w' : World}

/-- A look that finds a message of the right kind finishes the reception. -/
theorem look_of_found {e : Envelope} {v : x.kind.Value}
    (found : w.lookFor me x.session = (some e, w')) (received : e.parcel.receive x.kind = .ok v) :
    x.look me w = (some (x.finish v w').1, (x.finish v w').2) := by
  rw [look, found]
  dsimp only
  rw [received]
  rfl

theorem look_of_missed (missed : w.lookFor me x.session = (none, w')) :
    x.look me w = (none, w') := by
  rw [look, missed]

end Reception

theorem Engine.virtualNodeName_eq_ok_iff {e : Engine} {own : Member} :
    e.virtualNodeName = .ok own ↔ e.nodeName = some own := by
  rw [virtualNodeName]
  cases e.nodeName with
  | none => simp
  | some other => simp

namespace Chat.Couple

/-- What the initiator keeps of a message. -/
def outgoingRecord (c : Couple) (message : String) : Record :=
  OutgoingFlow.keepsake c.own c.peer message

/-- What the responder keeps of a message. -/
def incomingRecord (c : Couple) (message : String) : Record :=
  Chat.incomingRecord c.peer c.own ⟨message⟩

/-- How far messages have come since some moment: the initiator has sent all of them, the responder
has recorded the first of them, and the others are on their way in this order. -/
structure Along (c : Couple) (l : Link) (before : World) (recorded onWay : List String)
    (w : World) : Prop where
  registries : w.registries = before.registries
  engines : w.engines = before.engines
  sessions : (w.messagings.get c.outgoing.messaging).sessions =
    (before.messagings.get c.outgoing.messaging).sessions
  initiated : (w.messagings.get c.outgoing.messaging).initiated =
    (before.messagings.get c.outgoing.messaging).initiated ++
      List.replicate (recorded ++ onWay).length c.peer
  outgoing : (w.persistences.get c.outgoing.persistence).entities =
    (before.persistences.get c.outgoing.persistence).entities ++
      ((recorded ++ onWay).map c.outgoingRecord).map fun r => (.chatRecord, r.toJson)
  incoming : (w.persistences.get c.incoming.persistence).entities =
    (before.persistences.get c.incoming.persistence).entities ++
      (recorded.map c.incomingRecord).map fun r => (.chatRecord, r.toJson)
  forth : (w.queue (l.queue .a)).envelopes.map (·.parcel) =
    onWay.map fun message => .pack ⟨.chatMessage, ⟨message⟩⟩
  back : (w.queue (l.queue .b)).envelopes = []

variable {c : Couple} {l : Link} {before w w' : World} {recorded onWay : List String}

/-- As yet nothing has happened. -/
theorem Joined.along (h : c.Joined l w) : c.Along l w [] [] w := by
  have silent := h.silent
  rw [World.pendingMessages, Nat.add_eq_zero_iff, List.length_eq_zero_iff,
    List.length_eq_zero_iff] at silent
  refine ⟨rfl, rfl, rfl, by simp, by simp, by simp, ?_, silent.2⟩
  rw [silent.1]
  rfl

/-- Only mocks and messages count. -/
theorem Along.of_same (h : c.Along l before recorded onWay w)
    (registries : w'.registries = w.registries) (engines : w'.engines = w.engines)
    (messagings : w'.messagings = w.messagings) (persistences : w'.persistences = w.persistences)
    (envelopes : ∀ q, (w'.queue q).envelopes = (w.queue q).envelopes) :
    c.Along l before recorded onWay w' := by
  refine ⟨registries.trans h.registries, engines.trans h.engines, ?_, ?_, ?_, ?_,
    (congrArg _ (envelopes _)).trans h.forth, (envelopes _).trans h.back⟩
  · rw [messagings, h.sessions]
  · rw [messagings, h.initiated]
  · rw [persistences, h.outgoing]
  · rw [persistences, h.incoming]

/-- Once nothing is on its way, the couple is joined as before. -/
theorem Along.joined (h : c.Along l before recorded [] w) (joined : c.Joined l before) :
    c.Joined l w := by
  refine ⟨joined.engaged.of_same h.registries h.engines, joined.a, joined.b, ?_, ?_⟩
  · rw [Messaging.session?, h.sessions]
    exact joined.attached
  · rw [World.pendingMessages, List.map_eq_nil_iff.mp h.forth, h.back]
    rfl

/-! ## Calling the outgoing flow -/

/-- The world after the initiator has sent and recorded a message. -/
def afterCall (c : Couple) (l : Link) (message : String) (w : World) : World :=
  c.outgoing.delivered c.own c.peer (l.session .a) message w

/-- What a call of the outgoing flow comes to. -/
theorem Along.call_apply (h : c.Along l before recorded onWay w) (joined : c.Joined l before)
    {request : Request} (recipient : Member.parse request.recipient = .ok c.peer) :
    c.outgoing.call ⟨request.toJson.text⟩ w =
      (.ok outgoingResult, c.afterCall l request.message w) := by
  have own : (w.engines.get c.outgoing.engine).nodeName = some c.own := by
    rw [h.engines]
    exact Engine.virtualNodeName_eq_ok_iff.mp joined.engaged.ownName
  have session : (w.messagings.get c.outgoing.messaging).session? c.peer =
      some (l.session .a) := by
    rw [Messaging.session?, h.sessions]
    exact joined.attached
  have finds : c.outgoing.Finds ⟨request.toJson.text⟩ w request c.own c.peer (l.session .a) :=
    ⟨request.parse_text, recipient, own, session⟩
  exact finds.call_apply

theorem Along.afterCall (h : c.Along l before recorded onWay w)
    (apart : c.outgoing.persistence ≠ c.incoming.persistence) (message : String) :
    c.Along l before recorded (onWay ++ [message]) (c.afterCall l message w) := by
  have messaging : (c.afterCall l message w).messagings.get c.outgoing.messaging =
      (w.messagings.get c.outgoing.messaging).record c.peer := Store.get_set_self ..
  have mine : (c.afterCall l message w).persistences.get c.outgoing.persistence =
      (w.persistences.get c.outgoing.persistence).add .chatRecord
        (c.outgoingRecord message).toJson := Store.get_set_self ..
  have theirs : (c.afterCall l message w).persistences.get c.incoming.persistence =
      w.persistences.get c.incoming.persistence := Store.get_set_of_ne _ _ apart.symm
  have forth : (c.afterCall l message w).queue (l.queue .a) =
      ((w.queue (l.queue .a)).append l.a (.pack ⟨.chatMessage, ⟨message⟩⟩)).ring.2 :=
    World.queue_send_self _ (l.session .a) _
  have back : (c.afterCall l message w).queue (l.queue .b) = w.queue (l.queue .b) :=
    World.queue_send_of_ne _ (l.session .a) _ (by simp [Link.queue, Link.session, Session.outbound])
  refine ⟨h.registries, h.engines, ?_, ?_, ?_, ?_, ?_, ?_⟩
  · rw [messaging]
    exact h.sessions
  · have length : (recorded ++ (onWay ++ [message])).length = (recorded ++ onWay).length + 1 := by
      rw [← List.append_assoc, List.length_append, List.length_singleton]
    rw [messaging, length, List.replicate_succ', ← List.append_assoc, ← h.initiated]
    rfl
  · rw [mine, ← List.append_assoc, List.map_append, List.map_append, ← List.append_assoc,
      ← h.outgoing]
    rfl
  · rw [theirs, h.incoming]
  · rw [forth, Queue.envelopes_ring, Queue.envelopes_append, List.map_append, h.forth,
      List.map_append]
    rfl
  · rw [back, h.back]

/-! ## Receiving -/

/-- The world after the responder has recorded a message. -/
def afterRecord (c : Couple) (l : Link) (message : String) (w : World) : World :=
  c.incoming.keep c.peer (l.session .b) ⟨message⟩ w

/-- What a call of the incoming flow comes to. -/
theorem Along.ofIncoming_apply (h : c.Along l before recorded onWay w)
    (joined : c.Joined l before) : Reception.ofIncoming c.incoming (l.session .b) w =
      (.ok (.record (l.session .b) c.peer c.incoming.persistence), w) := by
  have name : (w.engines.get c.incoming.engine).nodeName = some c.peer := by
    rw [h.engines]
    exact Engine.virtualNodeName_eq_ok_iff.mp joined.engaged.peerName
  rw [IncomingFlow.ofIncoming_apply, name]

/-- Beginning to receive moves no message. -/
theorem Along.start (h : c.Along l before recorded onWay w) (x : Reception) :
    c.Along l before recorded onWay (x.start w) := by
  unfold Reception.start World.awaitMessage
  split
  · exact h.of_same rfl rfl rfl rfl fun _ => rfl
  · exact h

/-- Coming back to a queue moves no message. -/
theorem Along.answerCall (h : c.Along l before recorded onWay w) (me : Waiter) (s : Session) :
    c.Along l before recorded onWay (w.answerCall me s) :=
  h.of_same rfl rfl rfl rfl (World.still_answerCall w me s).envelopes

/-- The reception of a couple's responder. -/
def reception (c : Couple) (l : Link) : Reception :=
  .record (l.session .b) c.peer c.incoming.persistence

/-- The first message that is on its way is taken out of its queue and recorded. -/
theorem Along.afterRecord {message : String} (h : c.Along l before recorded (message :: onWay) w)
    (apart : c.outgoing.persistence ≠ c.incoming.persistence) (a : l.a = c.own)
    {rest : List Envelope}
    {log : List Event} (others : rest.map (·.parcel) =
      onWay.map fun message => .pack ⟨.chatMessage, ⟨message⟩⟩) :
    c.Along l before (recorded ++ [message]) onWay (c.afterRecord l message { w with
      queues := w.queues.set (l.queue .a) { w.queue (l.queue .a) with envelopes := rest }
      log }) := by
  generalize hw' : c.afterRecord l message _ = w'
  have mine : w'.persistences.get c.outgoing.persistence =
      w.persistences.get c.outgoing.persistence := by
    rw [← hw']
    exact Store.get_set_of_ne _ _ apart
  have theirs : w'.persistences.get c.incoming.persistence =
      (w.persistences.get c.incoming.persistence).add .chatRecord
        (c.incomingRecord message).toJson := by
    rw [← hw', incomingRecord, ← a]
    exact Store.get_set_self ..
  have forth : w'.queue (l.queue .a) = { w.queue (l.queue .a) with envelopes := rest } := by
    rw [← hw']
    exact Store.get_set_self ..
  have back : w'.queue (l.queue .b) = w.queue (l.queue .b) := by
    rw [← hw']
    exact Store.get_set_of_ne _ _ (by simp [Link.queue])
  have messagings : w'.messagings = w.messagings := by rw [← hw']; rfl
  refine ⟨hw' ▸ h.registries, hw' ▸ h.engines, ?_, ?_, ?_, ?_, ?_, ?_⟩
  · rw [messagings, h.sessions]
  · rw [messagings, h.initiated, List.append_assoc]
    rfl
  · rw [mine, h.outgoing, List.append_assoc]
    rfl
  · rw [theirs, List.map_append, List.map_append, ← List.append_assoc, ← h.incoming]
    rfl
  · rw [forth, ← others]
  · rw [back, h.back]

/-- **A look** of the responder where a message is on its way records it. -/
theorem Along.look_cons {message : String} (h : c.Along l before recorded (message :: onWay) w)
    (apart : c.outgoing.persistence ≠ c.incoming.persistence) (a : l.a = c.own) (me : Waiter) :
    ∃ w', (c.reception l).look me w = (some (.ok .nothing), w') ∧
      c.Along l before (recorded ++ [message]) onWay w' := by
  obtain ⟨e, rest, queued, parcel, others⟩ := List.map_eq_cons_iff.mp h.forth
  obtain ⟨log, found⟩ := World.lookFor_cons (s := l.session .b) queued me
  have received : e.parcel.receive (c.reception l).kind = .ok (⟨message⟩ : Message) := by
    rw [parcel]
    rfl
  have finished : ∀ w, (c.reception l).finish ⟨message⟩ w =
      (.ok .nothing, c.afterRecord l message w) := fun _ => rfl
  have looked := Reception.look_of_found found received
  rw [finished] at looked
  exact ⟨_, looked, h.afterRecord apart a others⟩

/-- A look of the responder where nothing is on its way leaves it waiting. -/
theorem Along.look_nil (h : c.Along l before recorded [] w) (me : Waiter) :
    ∃ w', (c.reception l).look me w = (none, w') ∧ c.Along l before recorded [] w' := by
  have nothing : (w.queue (l.session .b).inbound).envelopes = [] := List.map_eq_nil_iff.mp h.forth
  have missed := World.lookFor_eq w me (l.session .b)
  rw [Queue.poll_of_nil nothing] at missed
  refine ⟨_, Reception.look_of_missed missed, ?_⟩
  exact h.of_same rfl rfl rfl rfl (World.still_of_lookFor_none missed).envelopes

end Chat.Couple

end Rehearsal
