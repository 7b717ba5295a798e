import Rehearsal.Proofs.World.Operations
import Rehearsal.Proofs.World.Outcomes
import Rehearsal.Proofs.World.Queues

/-!
# Errands

What somebody does without waiting comes down to operations, but not to any: a receive that begins
finds a message or gives up before anything else happens, and nobody but a driver logs a driver's
events. `World.Errands` keeps that. Calls on registries, mocks and links log nothing of messages;
`World.Logs` says by which events a log grew.
-/

namespace Rehearsal

/-! ## By which events a log grows -/

/-- An event that a call on a registry, a mock or a link logs. -/
def Event.OfCall : Event → Prop
  | registryCreated _ _ _ => True
  | capabilityRegistered _ _ _ => True
  | registrySealed _ _ => True
  | flowInstantiated _ _ _ => True
  | linkCreated _ => True
  | sessionAttached _ => True
  | sessionReplaced _ => True
  | messagesPending _ _ => True
  | _ => False

theorem Event.OfCall.not_ofDriver {e : Event} (h : e.OfCall) : ¬ e.OfDriver := by
  cases e <;> first | exact h.elim | exact id

namespace World

variable {P : Event → Prop} {w w' w'' : World}

/-- From one world to the other the log grew, by events of one kind. -/
def Logs (P : Event → Prop) (w w' : World) : Prop :=
  ∃ events, w'.log = w.log ++ events ∧ ∀ e ∈ events, P e

namespace Logs

theorem of_same (same : w'.log = w.log) : Logs P w w' := ⟨[], by simp [same], by simp⟩

theorem refl (w : World) : Logs P w w := of_same rfl

theorem single {e : Event} (he : P e) (same : w'.log = w.log ++ [e]) : Logs P w w' :=
  ⟨[e], same, by simpa using he⟩

theorem trans (h : Logs P w w') (h' : Logs P w' w'') : Logs P w w'' := by
  obtain ⟨events, same, all⟩ := h
  obtain ⟨events', same', all'⟩ := h'
  refine ⟨events ++ events', by rw [same', same, List.append_assoc], fun e he => ?_⟩
  exact (List.mem_append.mp he).elim (all e) (all' e)

theorem mono {Q : Event → Prop} (h : Logs P w w') (weaker : ∀ e, P e → Q e) : Logs Q w w' := by
  obtain ⟨events, same, all⟩ := h
  exact ⟨events, same, fun e he => weaker e (all e he)⟩

end Logs

/-! ### Operations on queues -/

theorem log_send (w : World) (s : Session) (p : Payload) : (w.send s p).log = w.log ++
    [.messageSent s.outbound ((w.queue s.outbound).nextEnvelope s.owner (.pack p))
      s.counterparty] := rfl

theorem log_awaitMessage (w : World) (s : Session) (expected : Kind) :
    (w.awaitMessage s expected).log = w.log ++
      if (w.queue s.inbound).isEmpty then [.messageAwaited s.inbound s.owner expected]
      else [] := by
  unfold awaitMessage
  split
  · rfl
  · exact (List.append_nil _).symm

theorem log_lookFor (w : World) (me : Waiter) (s : Session) : (w.lookFor me s).2.log = w.log ++
    ((w.lookFor me s).1.map fun e => Event.messageReceived s.inbound e s.owner).toList := by
  rw [lookFor_eq]

theorem log_answerCall (w : World) (me : Waiter) (s : Session) :
    (w.answerCall me s).log = w.log := rfl

theorem log_withdraw (w : World) (me : Waiter) (s : Session) :
    (w.withdraw me s).log = w.log := rfl

/-! ### Calls -/

theorem logs_addService (w : World) (r : RegistryId) (c : Capability) :
    w.Logs Event.OfCall (w.addService r c).2 :=
  .single (e := .capabilityRegistered r _ c) trivial rfl

theorem logs_sealRegistry (w : World) (r : RegistryId) :
    w.Logs Event.OfCall (w.sealRegistry r) := by
  unfold sealRegistry
  dsimp only
  split
  · exact .refl w
  · exact .single (e := .registrySealed r _) trivial rfl

theorem IsAttachment.ofCall {s : Session} {e : Event} (h : IsAttachment s e) : e.OfCall := by
  rcases h with rfl | rfl <;> trivial

end World

namespace Act

variable {α : Type}

theorem logs_register (r : RegistryId) (c : Capability) :
    Keeps (World.Logs Event.OfCall) (register r c) := by
  intro w
  rw [register_apply]
  cases (w.registry r).mock? c with
  | some m => exact .refl w
  | none =>
    cases (w.registry r).isSealed with
    | true => exact .refl w
    | false => exact World.logs_addService w r c

theorem logs_construct (flow : String) (declared : List Capability) (r : RegistryId)
    (c : Constructor α) : Keeps (World.Logs Event.OfCall) (construct flow declared r c) := by
  induction c with
  | built a => exact keeps_pure .refl a
  | failed e => exact keeps_throw .refl e
  | register c next ih =>
    exact keeps_bind (R := World.Logs _) (fun _ _ _ => .trans)
      (keeps_attempt (logs_register r c)) ih
  | inject c next ih =>
    refine keeps_bind (R := World.Logs _) (fun _ _ _ => .trans) (keeps_attempt fun w => ?_) ih
    rw [inject_apply]
    exact .refl w

theorem logs_createFlow (r : RegistryId) (flow : Blueprint α) :
    Keeps (World.Logs Event.OfCall) (createFlow r flow) := by
  intro w
  rw [createFlow_apply]
  cases flow.dependencies.find? fun c => !(w.registry r).contains c with
  | some missing => exact .refl w
  | none =>
    have constructed := logs_construct flow.name flow.dependencies r flow.constructor w
    dsimp only
    revert constructed
    rcases construct flow.name flow.dependencies r flow.constructor w with ⟨e | built, w'⟩
    · exact id
    · intro constructed
      have closed := World.logs_sealRegistry w' r
      exact (constructed.trans closed).trans (.single (e := .flowInstantiated ..) trivial rfl)

theorem logs_linkRegistries (a b : RegistryId) :
    Keeps (World.Logs Event.OfCall) (linkRegistries a b) := by
  intro w
  rw [linkRegistries_apply]
  cases w.memberOf a with
  | error e => exact .refl w
  | ok own =>
    cases w.memberOf b with
    | error e => exact .refl w
    | ok peer =>
      dsimp only
      have linked : w.Logs Event.OfCall (w.addLink own peer).2 :=
        .single (e := .linkCreated (w.addLink own peer).1) trivial rfl
      obtain ⟨messagings, events, ofLink, same, -⟩ := World.attachTo_attachTo (w.addLink own peer).2
        a b ((w.addLink own peer).1.session .a) ((w.addLink own peer).1.session .b)
      rw [same]
      exact linked.trans ⟨events, rfl, fun e he => (ofLink e he).elim (·.ofCall) (·.ofCall)⟩

theorem logs_failIfPending (l : Link) : Keeps (World.Logs Event.OfCall) (failIfPending l) := by
  intro w
  rw [failIfPending_apply]
  split
  · exact .refl w
  · exact .single (e := .messagesPending l _) trivial rfl

theorem logs_persist (m : MockId) (p : Payload) :
    Keeps (World.Logs Event.OfCall) (persist m p) := by
  intro w
  rw [persist_apply]
  split <;> exact .of_same rfl

end Act

/-- Calls on registries, mocks and links, and that others can go on: whatever neither moves a
message nor is a step of a receiver or of a driver. -/
def Operation.IsAside : Operation → Prop
  | send _ _ => False
  | await _ _ => False
  | look _ _ => False
  | answer _ _ => False
  | withdraw _ _ => False
  | note _ => False
  | _ => True

/-- What is done aside logs nothing of messages or drivers. -/
theorem Operation.IsAside.logs {op : Operation} (aside : op.IsAside) (w : World) :
    w.Logs Event.OfCall (op.run w) := by
  cases op with
  | build participant capabilities =>
    exact .single (e := .registryCreated ..) trivial
      (congrArg (World.log ·.2) (Act.buildRegistry_apply participant capabilities w))
  | register r c => exact Act.logs_register r c w
  | create r flow => exact Act.logs_createFlow r flow w
  | linkMembers a b => exact .single (e := .linkCreated (w.addLink a b).1) trivial rfl
  | linkRegistries a b => exact Act.logs_linkRegistries a b w
  | check l => exact Act.logs_failIfPending l w
  | setNodeName => exact .of_same rfl
  | setSubFlow => exact .of_same rfl
  | subFlow m flow input =>
    exact .of_same (congrArg (World.log ·.2) (Act.subFlow_apply m flow input w))
  | initiate m counterparty =>
    exact .of_same (congrArg (World.log ·.2) (Act.initiate_apply m counterparty w))
  | format m p => exact .of_same (congrArg (World.log ·.2) (Act.format_apply m p w))
  | parse m k text => exact .of_same (congrArg (World.log ·.2) (Act.parse_apply m k text w))
  | persist m p => exact Act.logs_persist m p w
  | ready => exact .of_same rfl
  | send => exact aside.elim
  | await => exact aside.elim
  | look => exact aside.elim
  | answer => exact aside.elim
  | withdraw => exact aside.elim
  | note => exact aside.elim

/-! ## Errands -/

namespace World

variable {w w' w'' : World}

/-- What somebody does who does not wait. -/
inductive Errands : World → World → Prop where
  | refl (w : World) : Errands w w
  | aside {w : World} (op : Operation) (aside : op.IsAside) (applies : op.Applies w) :
      Errands w (op.run w)
  | send (w : World) (s : Session) (p : Payload) : Errands w (w.send s p)
  /-- Receives a message that is there. -/
  | receive {w w' : World} {me : Waiter} {s : Session} {k : Kind} {e : Envelope}
      (found : (w.awaitMessage s k).lookFor me s = (some e, w')) : Errands w w'
  /-- Begins to receive, and gives up as there is no message. -/
  | giveUp {w w' : World} {me : Waiter} {s : Session} {k : Kind}
      (missed : (w.awaitMessage s k).lookFor me s = (none, w')) : Errands w (w'.withdraw me s)
  | trans {w w' w'' : World} (first : Errands w w') (second : Errands w' w'') : Errands w w''

/-- One operation leads to the world that it comes to. -/
theorem Evolves.of_run (op : Operation) (applies : op.Applies w) (same : op.run w = w') :
    w.Evolves w' :=
  same ▸ .single op applies

/-- A receive that begins and looks is two operations. -/
theorem evolves_lookFor {me : Waiter} {s : Session} {k : Kind} {found : Option Envelope}
    (looked : (w.awaitMessage s k).lookFor me s = (found, w')) : w.Evolves w' := by
  have began : w.Evolves (w.awaitMessage s k) := .single (.await s k) trivial
  exact began.trans (.of_run (.look me s) trivial (congrArg Prod.snd looked))

namespace Errands

/-- Errands are operations. -/
theorem evolves (h : w.Errands w') : w.Evolves w' := by
  induction h with
  | refl w => exact .refl w
  | aside op _ applies => exact .single op applies
  | send w s p => exact .single (.send s p) trivial
  | receive found => exact evolves_lookFor found
  | @giveUp _ _ me s _ missed =>
    exact (evolves_lookFor missed).trans (.single (.withdraw me s) trivial)
  | trans _ _ first second => exact first.trans second

end Errands

/-- What a receiver logs is no driver's. -/
theorem logs_lookFor {me : Waiter} {s : Session} {found : Option Envelope}
    (looked : w.lookFor me s = (found, w')) : w.Logs (¬ Event.OfDriver ·) w' := by
  have log := log_lookFor w me s
  rw [looked] at log
  cases found with
  | none => exact .of_same (by simpa using log)
  | some e => exact .single id log

theorem logs_start_lookFor {me : Waiter} {s : Session} {k : Kind} {found : Option Envelope}
    (looked : (w.awaitMessage s k).lookFor me s = (found, w')) :
    w.Logs (¬ Event.OfDriver ·) w' := by
  refine .trans ⟨_, log_awaitMessage w s k, fun e he => ?_⟩ (logs_lookFor looked)
  split at he
  · rw [List.mem_singleton.mp he]
    exact id
  · cases he

/-- Nobody but a driver logs a driver's events. -/
theorem Errands.logs (h : w.Errands w') : w.Logs (¬ Event.OfDriver ·) w' := by
  induction h with
  | refl w => exact .refl w
  | aside _ aside _ => exact (aside.logs _).mono fun _ => Event.OfCall.not_ofDriver
  | send w s p => exact .single id (log_send w s p)
  | receive found => exact logs_start_lookFor found
  | giveUp missed => exact (logs_start_lookFor missed).trans (.of_same (log_withdraw _ _ _))
  | trans _ _ first second => exact first.trans second

end World

/-! ## Actions -/

namespace Act

variable {α β : Type} {r : RegistryId}

/-- An action that does nothing but errands. -/
def IsErrand (a : Act α) : Prop := Keeps World.Errands a

/-- An action of errands, provided that there is this registry. -/
def IsErrandAt (r : RegistryId) (a : Act α) : Prop :=
  Keeps (fun w w' : World => r < w.registryCount → w.Errands w') a

theorem errand_pure (a : α) : IsErrand (pure a) := keeps_pure World.Errands.refl a

theorem errand_ask (question : World → Except Error α) : IsErrand (ask question) :=
  keeps_ask World.Errands.refl question

theorem IsErrand.bind {a : Act α} {f : α → Act β} (ha : IsErrand a) (hf : ∀ x, IsErrand (f x)) :
    IsErrand (a >>= f) :=
  keeps_bind (R := World.Errands) (fun _ _ _ h h' => h.trans h') ha hf

theorem errand_buildRegistry (participant : String) (capabilities : List Capability) :
    IsErrand (buildRegistry participant capabilities) :=
  fun _ => .aside (.build participant capabilities) trivial trivial

theorem errand_newRegistry (participant : String) : IsErrand (newRegistry participant) :=
  errand_buildRegistry participant []

theorem errand_register (r : RegistryId) (c : Capability) : IsErrandAt r (register r c) :=
  fun _ known => .aside (.register r c) trivial known

theorem errand_createFlow (r : RegistryId) (flow : Blueprint α) :
    IsErrandAt r (createFlow r flow) :=
  fun _ known => .aside (.create r flow) trivial known

theorem errand_linkMembers (a b : Member) : IsErrand (linkMembers a b) :=
  fun _ => .aside (.linkMembers a b) trivial trivial

theorem errand_linkRegistries (a b : RegistryId) : IsErrand (linkRegistries a b) :=
  fun _ => .aside (.linkRegistries a b) trivial trivial

theorem errand_failIfPending (l : Link) : IsErrand (failIfPending l) :=
  fun _ => .aside (.check l) trivial trivial

theorem errand_setNodeName (m : MockId) (name : Member) : IsErrand (setNodeName m name) :=
  fun _ => .aside (.setNodeName m name) trivial trivial

theorem errand_setSubFlow (m : MockId) (flow : String) (result : Json) :
    IsErrand (setSubFlow m flow result) :=
  fun _ => .aside (.setSubFlow m flow result) trivial trivial

theorem errand_subFlow (m : MockId) (flow : String) (input : Json) :
    IsErrand (subFlow m flow input) :=
  fun _ => .aside (.subFlow m flow input) trivial trivial

theorem errand_initiate (m : MockId) (counterparty : Member) : IsErrand (initiate m counterparty) :=
  fun _ => .aside (.initiate m counterparty) trivial trivial

theorem errand_format (m : MockId) (p : Payload) : IsErrand (format m p) :=
  fun _ => .aside (.format m p) trivial trivial

theorem errand_parse (m : MockId) (k : Kind) (text : String) : IsErrand (parse m k text) :=
  fun _ => .aside (.parse m k text) trivial trivial

theorem errand_persist (m : MockId) (p : Payload) : IsErrand (persist m p) :=
  fun _ => .aside (.persist m p) trivial trivial

theorem errand_send (s : Session) (p : Payload) : IsErrand (send s p) :=
  fun _ => .send _ s p

theorem errand_outgoing (flow : Chat.OutgoingFlow) (request : FlowRequest) :
    IsErrand (flow.call request) := by
  refine (errand_parse _ _ _).bind fun parameter => (errand_ask _).bind fun recipient => ?_
  refine (errand_ask _).bind fun own => (errand_initiate _ _).bind fun session => ?_
  refine (errand_send _ _).bind fun _ => (errand_persist _ _).bind fun _ => ?_
  exact errand_pure _

end Act

end Rehearsal
