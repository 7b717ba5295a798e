import Rehearsal.Drive.Script
import Rehearsal.Proofs.Chat.Records
import Rehearsal.Proofs.Receiving
import Rehearsal.Proofs.World.Outcomes

/-!
# Chat calls have all their effects or none

A call of the outgoing flow needs four things, and looks for them one after the other. If it finds
them all, it sends one message and keeps one record; if it lacks one, it fails with what it lacks
first, and all that it leaves is that it was attempted. A call of the incoming flow takes a message
only where it ends, and keeps a record only if that was a chat message.
-/

namespace Rehearsal

/-- An entity that is added is found behind those that were found before. -/
theorem Persistence.findAll_add {store : Persistence} {k : Kind} {j : Json} {v : k.Value}
    {vs : List k.Value} (found : store.findAll k = .ok vs) (read : k.decode j = .ok v) :
    (store.add k j).findAll k = .ok (vs ++ [v]) := by
  have more : (store.add k j).ofKind k = store.ofKind k ++ [j] := by
    simp [ofKind, add, List.filter_append]
  unfold findAll at found ⊢
  rw [more, List.mapM_append, found]
  simp [List.mapM_cons, read, bind, Except.bind, pure, Except.pure]

namespace Chat

/-- A record is persisted under its JSON. -/
theorem Record.persist_apply (m : MockId) (r : Record) (w : World) :
    Act.persist m ⟨.chatRecord, r⟩ w = (.ok (), { w with
      persistences := w.persistences.modify m fun store => store.add .chatRecord r.toJson }) := by
  rw [Act.persist_apply]
  rfl

/-! ## The outgoing flow -/

namespace OutgoingFlow

/-- All that a call needs: its body is a request, which names a member, and there are a name that
the flow runs as and a session with that member. -/
structure Finds (flow : OutgoingFlow) (request : FlowRequest) (w : World) (r : Request)
    (own peer : Member) (s : Session) : Prop where
  body : Kind.chatRequest.parse request.body = .ok r
  recipient : Member.parse r.recipient = .ok peer
  ownName : (w.engines.get flow.engine).nodeName = some own
  session : (w.messagings.get flow.messaging).session? peer = some s

/-- The first thing that a call lacks, as the error that says so, and the member that it has asked
for a session with, if it came to that. -/
inductive Lacks (flow : OutgoingFlow) (request : FlowRequest) (w : World) :
    Error → Option Member → Prop where
  | body {refusal : Json.Refusal} (refused : Kind.chatRequest.parse request.body = .error refusal) :
    Lacks flow request w (.serialization refusal) none
  | recipient {r : Request} {fault : Member.Fault}
      (body : Kind.chatRequest.parse request.body = .ok r)
      (refused : Member.parse r.recipient = .error fault) :
    Lacks flow request w (.invalidMemberName r.recipient fault.reason) none
  | ownName {r : Request} {peer : Member} (body : Kind.chatRequest.parse request.body = .ok r)
      (recipient : Member.parse r.recipient = .ok peer)
      (unstubbed : (w.engines.get flow.engine).nodeName = none) :
    Lacks flow request w (.unstubbedCall "FlowEngine" "virtual_node_name") none
  | session {r : Request} {own peer : Member}
      (body : Kind.chatRequest.parse request.body = .ok r)
      (recipient : Member.parse r.recipient = .ok peer)
      (ownName : (w.engines.get flow.engine).nodeName = some own)
      (unattached : (w.messagings.get flow.messaging).session? peer = none) :
    Lacks flow request w (.noSessionForCounterparty peer.text) (some peer)

/-- A call was attempted, and has perhaps asked for a session; nothing else has happened. -/
def attempted (flow : OutgoingFlow) (asked : Option Member) (w : World) : World :=
  { w with
    marshallings := w.marshallings.modify flow.marshalling (·.countParse)
    messagings := match asked with
      | some peer => w.messagings.modify flow.messaging (·.record peer)
      | none => w.messagings }

/-- What the sending side keeps of a message. -/
def keepsake (own peer : Member) (message : String) : Record :=
  ⟨.outgoing, own.text, peer.text, message⟩

/-- A call has sent its message and kept its record. -/
def delivered (flow : OutgoingFlow) (own peer : Member) (s : Session) (message : String)
    (w : World) : World :=
  let w := (flow.attempted (some peer) w).send s ⟨.chatMessage, ⟨message⟩⟩
  { w with persistences := w.persistences.modify flow.persistence fun store =>
      store.add .chatRecord (keepsake own peer message).toJson }

variable {flow : OutgoingFlow} {request : FlowRequest} {w w' : World} {r : Request}
  {own peer : Member} {s : Session} {e : Error} {asked : Option Member}

/-- All that a call can come to. -/
theorem call_apply (flow : OutgoingFlow) (request : FlowRequest) (w : World) :
    flow.call request w =
      match Kind.chatRequest.parse request.body with
      | .error refusal => (.error (.serialization refusal), flow.attempted none w)
      | .ok r =>
        match Member.parse r.recipient with
        | .error fault =>
          (.error (.invalidMemberName r.recipient fault.reason), flow.attempted none w)
        | .ok peer =>
          match (w.engines.get flow.engine).nodeName with
          | none =>
            (.error (.unstubbedCall "FlowEngine" "virtual_node_name"), flow.attempted none w)
          | some own =>
            match (w.messagings.get flow.messaging).session? peer with
            | none => (.error (.noSessionForCounterparty peer.text), flow.attempted (some peer) w)
            | some s => (.ok outgoingResult, flow.delivered own peer s r.message w) := by
  have read : request.bodyAs flow.marshalling .chatRequest w =
      (Error.ofRefusal (Kind.chatRequest.parse request.body), flow.attempted none w) :=
    Act.parse_apply ..
  rw [call, bind_apply, read]
  cases Kind.chatRequest.parse request.body with
  | error refusal => rfl
  | ok r =>
    dsimp only [Error.ofRefusal]
    rw [bind_apply, ask_apply, Member.read]
    cases Member.parse r.recipient with
    | error fault => rfl
    | ok peer =>
      dsimp only
      rw [bind_apply, Act.nodeName, ask_apply, Engine.virtualNodeName,
        show (flow.attempted none w).engines = w.engines from rfl]
      cases (w.engines.get flow.engine).nodeName with
      | none => rfl
      | some own =>
        dsimp only
        rw [bind_apply, Act.initiate_apply, Messaging.session,
          show (flow.attempted none w).messagings = w.messagings from rfl]
        cases (w.messagings.get flow.messaging).session? peer with
        | none => rfl
        | some s => rfl

/-- Whatever is to be found is found, and then the call succeeds. -/
theorem Finds.call_apply (h : flow.Finds request w r own peer s) :
    flow.call request w = (.ok outgoingResult, flow.delivered own peer s r.message w) := by
  simp only [OutgoingFlow.call_apply, h.body, h.recipient, h.ownName, h.session]

/-- What is lacked first is what the call fails with, having done no more than to attempt it. -/
theorem Lacks.call_apply (h : flow.Lacks request w e asked) :
    flow.call request w = (.error e, flow.attempted asked w) := by
  rw [OutgoingFlow.call_apply]
  cases h with
  | body refused => rw [refused]
  | recipient body refused => simp only [body, refused]
  | ownName body recipient unstubbed => simp only [body, recipient, unstubbed]
  | session body recipient ownName unattached =>
    simp only [body, recipient, ownName, unattached]

/-- A call finds all that it needs, or it lacks something. -/
theorem finds_or_lacks (flow : OutgoingFlow) (request : FlowRequest) (w : World) :
    (∃ r own peer s, flow.Finds request w r own peer s) ∨
      ∃ e asked, flow.Lacks request w e asked := by
  cases body : Kind.chatRequest.parse request.body with
  | error refusal => exact .inr ⟨_, _, .body body⟩
  | ok r =>
    cases recipient : Member.parse r.recipient with
    | error fault => exact .inr ⟨_, _, .recipient body recipient⟩
    | ok peer =>
      cases ownName : (w.engines.get flow.engine).nodeName with
      | none => exact .inr ⟨_, _, .ownName body recipient ownName⟩
      | some own =>
        cases session : (w.messagings.get flow.messaging).session? peer with
        | none => exact .inr ⟨_, _, .session body recipient ownName session⟩
        | some s => exact .inl ⟨r, own, peer, s, body, recipient, ownName, session⟩

/-- What is seen after a call that failed: the marshalling mock has counted one more reading, and if
it was the session that was missing, the messaging mock has kept one more attempt. Nothing else is
different, so no queue and no store. -/
structure Attempted (flow : OutgoingFlow) (asked : Option Member) (w w' : World) : Prop where
  rest : w' = { w with marshallings := w'.marshallings, messagings := w'.messagings }
  marshalling : ∀ m, w'.marshallings.get m = { w.marshallings.get m with
    parseCalls := (w.marshallings.get m).parseCalls + if m = flow.marshalling then 1 else 0 }
  messaging : ∀ m, w'.messagings.get m = { w.messagings.get m with
    initiated := (w.messagings.get m).initiated ++ if m = flow.messaging then asked.toList else [] }

theorem attempted_attempted (flow : OutgoingFlow) (asked : Option Member) (w : World) :
    flow.Attempted asked w (flow.attempted asked w) := by
  refine ⟨rfl, fun m => ?_, fun m => ?_⟩
  · show (w.marshallings.modify flow.marshalling _).get m = _
    rw [Store.get_modify]
    by_cases here : m = flow.marshalling <;> simp [here, Marshalling.countParse]
  · cases asked with
    | none => simp [attempted]
    | some peer =>
      show (w.messagings.modify flow.messaging _).get m = _
      rw [Store.get_modify]
      by_cases here : m = flow.messaging <;> simp [here, Messaging.record]

/-- What is seen after a call that succeeded: besides the attempt, one message in the queue that the
session sends to, and one record in the store. -/
structure Delivered (flow : OutgoingFlow) (own peer : Member) (s : Session) (message : String)
    (w w' : World) : Prop where
  attempted : ∃ v, flow.Attempted (some peer) w v ∧ w' = { v with
    queues := w'.queues, ready := w'.ready, log := w'.log, persistences := w'.persistences }
  envelopes : ∀ q, (w'.queue q).envelopes = (w.queue q).envelopes ++ if q = s.outbound
    then [(w.queue q).nextEnvelope s.owner (.pack ⟨.chatMessage, ⟨message⟩⟩)] else []
  entities : ∀ m, (w'.persistences.get m).entities = (w.persistences.get m).entities ++
    if m = flow.persistence then [(.chatRecord, (keepsake own peer message).toJson)] else []
  found : ∀ records, (w.persistences.get flow.persistence).findAll .chatRecord = .ok records →
    (w'.persistences.get flow.persistence).findAll .chatRecord =
      .ok (records ++ [keepsake own peer message])

theorem delivered_delivered (flow : OutgoingFlow) (own peer : Member) (s : Session)
    (message : String) (w : World) :
    flow.Delivered own peer s message w (flow.delivered own peer s message w) := by
  have store : ∀ m, (flow.delivered own peer s message w).persistences.get m =
      if m = flow.persistence
      then (w.persistences.get m).add .chatRecord (keepsake own peer message).toJson
      else w.persistences.get m := fun m => Store.get_modify ..
  refine ⟨⟨_, flow.attempted_attempted (some peer) w, rfl⟩, fun q => ?_, fun m => ?_,
    fun records found => ?_⟩
  · show (((flow.attempted (some peer) w).send s _).queue q).envelopes = _
    by_cases here : q = s.outbound
    · subst here
      rw [World.queue_send_self, Queue.envelopes_ring, Queue.envelopes_append, if_pos rfl]
      rfl
    · rw [World.queue_send_of_ne _ _ _ here, if_neg here, List.append_nil]
      rfl
  · rw [store]
    by_cases here : m = flow.persistence <;> simp [here, Persistence.add]
  · rw [store, if_pos rfl]
    exact Persistence.findAll_add found (Record.ofJson_toJson _)

end OutgoingFlow

end Chat

/-! ## The incoming flow -/

/-- From one world to the other no queue lost or gained a message, and no store a record. -/
structure World.Undisturbed (w w' : World) : Prop where
  envelopes : ∀ q, (w'.queue q).envelopes = (w.queue q).envelopes
  persistences : w'.persistences = w.persistences

namespace Reception

/-- A reception as it goes on: the world before and after each of its steps, and what it came to, if
it has ended. Whatever others do happens between its steps. -/
inductive Passage (x : Reception) (me : Waiter) :
    List (World × World) → Option (Except Error Answer) → Prop where
  | begun (w : World) : Passage x me [(w, x.start w)] none
  | missed {steps : List (World × World)} {w w' : World} (before : Passage x me steps none)
      (looked : x.look me w = (none, w')) : Passage x me (steps ++ [(w, w')]) none
  | called {steps : List (World × World)} (before : Passage x me steps none) (w : World) :
      Passage x me (steps ++ [(w, w.answerCall me x.session)]) none
  | gaveUp {steps : List (World × World)} (before : Passage x me steps none) (w : World) :
      Passage x me (steps ++ [(w, w.withdraw me x.session)]) none
  | ended {steps : List (World × World)} {w w' : World} {result : Except Error Answer}
      (before : Passage x me steps none) (looked : x.look me w = (some result, w')) :
      Passage x me (steps ++ [(w, w')]) (some result)

variable {x : Reception} {me : Waiter} {w w' : World} {steps : List (World × World)}

theorem Passage.look (before : x.Passage me steps none) (w : World) :
    x.Passage me (steps ++ [(w, (x.look me w).2)]) (x.look me w).1 := by
  cases looked : x.look me w with
  | mk found w' =>
    cases found with
    | none => exact before.missed looked
    | some result => exact before.ended looked

/-- A body that starts a reception begins a passage. -/
theorem passage_receiving (x : Reception) (me : Waiter) (stage : Stage) :
    x.Passage me [(stage.world, x.start stage.world),
      (x.start stage.world, (Action.receiving me x stage).2.world)]
      (x.look me (x.start stage.world)).1 := by
  have begun : x.Passage me [(stage.world, x.start stage.world)] none := .begun stage.world
  have passage := begun.look (x.start stage.world)
  have same : (Action.receiving me x stage).2.world = (x.look me (x.start stage.world)).2 := by
    unfold Action.receiving
    rcases x.look me (x.start stage.world) with ⟨_ | _ | _, w'⟩ <;> rfl
  rw [same]
  exact passage

/-- A body that comes back to a reception goes on with its passage. -/
theorem Passage.resume (before : x.Passage me steps none) (stage : Stage) :
    let answered := stage.world.answerCall me x.session
    x.Passage me (steps ++ [(stage.world, answered)] ++
      [(answered, ((Wait.message x).resume me stage).2.world)]) (x.look me answered).1 := by
  intro answered
  have passage := (before.called stage.world).look answered
  have same : ((Wait.message x).resume me stage).2.world = (x.look me answered).2 := by
    unfold Wait.resume
    dsimp only
    rcases x.look me answered with ⟨_ | _ | _, w'⟩ <;> rfl
  rw [same]
  exact passage

/-! Every step but the one that finds a message spares all queues and stores. -/

theorem undisturbed_start (x : Reception) (w : World) : w.Undisturbed (x.start w) := by
  unfold start World.awaitMessage
  split <;> exact ⟨fun _ => rfl, rfl⟩

theorem undisturbed_of_look_none (looked : x.look me w = (none, w')) : w.Undisturbed w' := by
  have missed := lookFor_of_look_none looked
  refine ⟨(World.still_of_lookFor_none missed).envelopes, ?_⟩
  rw [World.lookFor_eq, Prod.mk.injEq] at missed
  rw [← missed.2]

/-- As long as a reception has not ended, it has taken and kept nothing. -/
theorem Passage.undisturbed (h : x.Passage me steps none) :
    ∀ step ∈ steps, step.1.Undisturbed step.2 := by
  generalize pending : (none : Option (Except Error Answer)) = outcome at h
  have more : ∀ {steps : List (World × World)} {v v' : World},
      (∀ step ∈ steps, step.1.Undisturbed step.2) → v.Undisturbed v' →
      ∀ step ∈ steps ++ [(v, v')], step.1.Undisturbed step.2 := by
    intro steps v v' each spares step member
    rcases List.mem_append.mp member with old | new
    · exact each step old
    · rw [List.mem_singleton.mp new]
      exact spares
  induction h with
  | begun w => simpa using undisturbed_start x w
  | missed _ looked ih => exact more (ih rfl) (undisturbed_of_look_none looked)
  | called _ w ih => exact more (ih rfl) ⟨(World.still_answerCall w me _).envelopes, rfl⟩
  | gaveUp _ w ih => exact more (ih rfl) ⟨(World.still_withdraw w me _).envelopes, rfl⟩
  | ended => cases pending

/-- A look that comes to something takes the oldest message of its queue. -/
theorem hands_of_look_some {result : Except Error Answer}
    (looked : x.look me w = (some result, w')) :
    ∃ e rest v, (w.queue x.session.inbound).envelopes = e :: rest ∧ w.Hands me x.session e rest v ∧
      v.persistences = w.persistences ∧
      (some result, w') = match e.parcel.receive x.kind with
        | .ok value => (some (x.finish value v).1, (x.finish value v).2)
        | .error fault => (some (.error fault), v) := by
  cases queued : (w.queue x.session.inbound).envelopes with
  | nil =>
    have head := w.lookFor_head me x.session
    rw [queued, List.head?_nil] at head
    rw [look, show w.lookFor me x.session = (none, (w.lookFor me x.session).2) from
      Prod.ext head rfl] at looked
    cases looked
  | cons e rest =>
    obtain ⟨v, hands⟩ := World.exists_hands queued me
    have kept : (w.lookFor me x.session).2.persistences = w.persistences := by
      rw [World.lookFor_eq]
    rw [hands.found] at kept
    rw [look_of_hands hands] at looked
    exact ⟨e, rest, v, rfl, hands, kept, looked.symm⟩

end Reception

namespace Chat.IncomingFlow

/-- A record of a message is kept. -/
def keep (flow : IncomingFlow) (own : Member) (s : Session) (m : Message) (w : World) : World :=
  { w with persistences := w.persistences.modify flow.persistence fun store =>
      store.add .chatRecord (incomingRecord own s.counterparty m).toJson }

/-- What the last step of an incoming call does: it takes the oldest message of the session, and
that one only. If it is a chat message, one record of it is kept; otherwise the call fails with the
names of both kinds, and no store is different. -/
inductive Recorded (flow : IncomingFlow) (own : Member) (s : Session) (me : Waiter) (w w' : World) :
    Except Error Answer → Prop where
  | kept {e : Envelope} {rest : List Envelope} {v : World} {m : Message}
      (queued : (w.queue s.inbound).envelopes = e :: rest) (hands : w.Hands me s e rest v)
      (spared : v.persistences = w.persistences) (parcel : e.parcel = .pack ⟨.chatMessage, m⟩)
      (after : w' = flow.keep own s m v) : Recorded flow own s me w w' (.ok .nothing)
  | mistyped {e : Envelope} {rest : List Envelope}
      (queued : (w.queue s.inbound).envelopes = e :: rest) (hands : w.Hands me s e rest w')
      (spared : w'.persistences = w.persistences)
      (wrong : e.parcel.tag ≠ .chatMessage ∨ e.payload.kind ≠ .chatMessage) :
      Recorded flow own s me w w'
        (.error (.unexpectedMessageType Kind.chatMessage.name e.parcel.tag.name))

variable {flow : IncomingFlow} {own : Member} {s : Session} {me : Waiter} {w w' : World}

theorem recorded_of_look {result : Except Error Answer}
    (looked : (Reception.record s own flow.persistence).look me w = (some result, w')) :
    flow.Recorded own s me w w' result := by
  obtain ⟨e, rest, v, queued, hands, spared, came⟩ := Reception.hands_of_look_some looked
  cases received : e.parcel.receive .chatMessage with
  | error fault =>
    rw [show e.parcel.receive (Reception.record s own flow.persistence).kind = _ from received]
      at came
    cases came
    obtain ⟨wrong, rfl⟩ := Parcel.receive_eq_error_iff.mp received
    exact .mistyped queued hands spared wrong
  | ok m =>
    rw [show e.parcel.receive (Reception.record s own flow.persistence).kind = _ from received]
      at came
    have finished : (Reception.record s own flow.persistence).finish m v =
        (.ok .nothing, flow.keep own s m v) := by
      show (Act.persist _ _ >>= fun _ => pure Answer.nothing) v = _
      rw [bind_apply, Record.persist_apply]
      rfl
    dsimp only at came
    rw [finished] at came
    cases came
    exact .kept queued hands spared (Parcel.receive_eq_ok_iff.mp received) rfl

/-- Who an incoming call runs as is found out before it receives anything. -/
theorem ofIncoming_apply (flow : IncomingFlow) (s : Session) (w : World) :
    Reception.ofIncoming flow s w = match (w.engines.get flow.engine).nodeName with
      | some own => (.ok (.record s own flow.persistence), w)
      | none => (.error (.unstubbedCall "FlowEngine" "virtual_node_name"), w) := by
  rw [Reception.ofIncoming, bind_apply, Act.nodeName, ask_apply, Engine.virtualNodeName]
  cases (w.engines.get flow.engine).nodeName <;> rfl

end Chat.IncomingFlow

/-- **All or nothing.** A call of the outgoing flow succeeds if and only if it finds all that it
needs, and then it has sent its message and kept its record, each once. If it fails, it does so with
what it lacks first, and no queue and no store is different. A call of the incoming flow that finds
no name to run as does nothing at all. Otherwise, whatever others do meanwhile, all its steps but
the last spare every queue and every store; the last takes one message, and if that is no chat
message, no store is different. -/
theorem Chat.call_all_or_nothing :
    (∀ (flow : OutgoingFlow) (request : FlowRequest) (w : World),
      ((∃ result, (flow.call request w).1 = .ok result) ↔
        ∃ r own peer s, flow.Finds request w r own peer s) ∧
      (∀ r own peer s, flow.Finds request w r own peer s →
        (flow.call request w).1 = .ok outgoingResult ∧
          flow.Delivered own peer s r.message w (flow.call request w).2) ∧
      ∀ e, (flow.call request w).1 = .error e →
        ∃ asked, flow.Lacks request w e asked ∧
          flow.Attempted asked w (flow.call request w).2) ∧
    ∀ (flow : IncomingFlow) (s : Session),
      (∀ w, Reception.ofIncoming flow s w = match (w.engines.get flow.engine).nodeName with
        | some own => (.ok (.record s own flow.persistence), w)
        | none => (.error (.unstubbedCall "FlowEngine" "virtual_node_name"), w)) ∧
      ∀ own me steps outcome, (Reception.record s own flow.persistence).Passage me steps outcome →
        (outcome = none ∧ ∀ step ∈ steps, step.1.Undisturbed step.2) ∨
        ∃ result before w w', outcome = some result ∧ steps = before ++ [(w, w')] ∧
          (∀ step ∈ before, step.1.Undisturbed step.2) ∧ flow.Recorded own s me w w' result := by
  refine ⟨fun flow request w =>
      ⟨⟨fun ⟨result, succeeded⟩ => ?_, fun ⟨r, own, peer, s, finds⟩ => ?_⟩,
        fun r own peer s finds => ?_, fun e failed => ?_⟩,
    fun flow s => ⟨flow.ofIncoming_apply s, fun own me steps outcome passage => ?_⟩⟩
  · rcases flow.finds_or_lacks request w with finds | ⟨e, asked, lacks⟩
    · exact finds
    · rw [lacks.call_apply] at succeeded
      cases succeeded
  · rw [finds.call_apply]
    exact ⟨_, rfl⟩
  · rw [finds.call_apply]
    exact ⟨rfl, flow.delivered_delivered own peer s r.message w⟩
  · rcases flow.finds_or_lacks request w with ⟨r, own, peer, s, finds⟩ | ⟨e', asked, lacks⟩
    · rw [finds.call_apply] at failed
      cases failed
    · rw [lacks.call_apply] at failed ⊢
      cases failed
      exact ⟨asked, lacks, flow.attempted_attempted asked w⟩
  · cases outcome with
    | none => exact .inl ⟨rfl, passage.undisturbed⟩
    | some result =>
      cases passage with
      | ended before looked =>
        exact .inr ⟨result, _, _, _, rfl, rfl, before.undisturbed,
          IncomingFlow.recorded_of_look looked⟩

/-- Alice has no session with Bob, who finds a number where he wants a chat message. -/
theorem Chat.call_all_or_nothing_amiss : ∃ (outgoing : OutgoingFlow) (request : FlowRequest)
    (incoming : IncomingFlow) (s : Session) (own peer : Member) (w v : World),
    (∃ asked, (outgoing.call request w).1 = .error (.noSessionForCounterparty peer.text) ∧
      outgoing.Attempted asked w (outgoing.call request w).2) ∧
    ∃ result, (Reception.record s own incoming.persistence).Passage 1 [(w, w), (w, v)]
        (some result) ∧
      incoming.Recorded own s 1 w v result ∧
      result = .error (.unexpectedMessageType Kind.chatMessage.name "u8") := by
  let alice : Member := ⟨none, none, "Alice", "Oslo", none, "NO"⟩
  let bob : Member := ⟨none, none, "Bob", "Bonn", none, "DE"⟩
  let outgoing : OutgoingFlow := ⟨0, 1, 2, 3⟩
  let incoming : IncomingFlow := ⟨4, 5⟩
  let s : Session := ⟨0, .b, bob, alice⟩
  let x : Reception := .record s bob incoming.persistence
  let r : Request := ⟨"O=Bob, L=Bonn, C=DE", "hello"⟩
  let request : FlowRequest := ⟨r.toJson.text⟩
  let w := ({ engines := ({} : Store MockId Engine).modify 2 (·.setNodeName alice) } : World).send
    ⟨0, .a, alice, bob⟩ .five
  have parsed : Member.parse r.recipient = .ok bob := by decide +kernel
  have lacks : outgoing.Lacks request w (.noSessionForCounterparty bob.text) (some bob) :=
    .session r.parse_text parsed rfl rfl
  have failed := congrArg Prod.fst lacks.call_apply
  obtain ⟨asked, -, attempted⟩ := (call_all_or_nothing.1 outgoing request w).2.2 _ failed
  have looked : (x.look 1 (x.start w)).1 =
      some (.error (.unexpectedMessageType Kind.chatMessage.name "u8")) := rfl
  have begun : x.Passage 1 [(w, x.start w)] none := .begun w
  have passage := begun.look (x.start w)
  rw [looked] at passage
  obtain ⟨⟨⟩, -⟩ | ⟨result, before, v, v', same, split, -, recorded⟩ :=
    (call_all_or_nothing.2 incoming s).2 bob 1 _ _ passage
  cases same
  obtain ⟨rfl, last⟩ := List.append_inj' split rfl
  cases last
  exact ⟨outgoing, request, incoming, s, bob, bob, w, _, ⟨asked, failed, attempted⟩,
    _, passage, recorded, rfl⟩

end Rehearsal
