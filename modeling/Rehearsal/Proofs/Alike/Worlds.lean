import Rehearsal.Flow.Scripted
import Rehearsal.Proofs.Agreeing
import Rehearsal.Proofs.World.Builders
import Rehearsal.Proofs.World.Queues
import Rehearsal.World.Services

/-!
# Worlds that differ in their past

Two worlds are alike if they differ at most in the permits of their queues and in what was logged
before. Nobody can tell them apart: a permit only lets a waiter look once more at a queue that is
still empty. So whatever is done on alike worlds ends alike, is logged alike, and leaves them alike.
-/

namespace Rehearsal

/-- Two queues that differ at most in their permit. -/
def Queue.Alike (q q' : Queue) : Prop := q' = { q with permit := q'.permit }

namespace Queue.Alike

variable {q q' : Queue}

theorem refl (q : Queue) : q.Alike q := rfl

theorem envelopes (h : q.Alike q') : q'.envelopes = q.envelopes := by rw [h]

theorem called (h : q.Alike q') : q'.called = q.called := by rw [h]

theorem isEmpty (h : q.Alike q') : q'.isEmpty = q.isEmpty := by rw [h]; rfl

theorem kinds (h : q.Alike q') : q'.kinds = q.kinds := by rw [h]; rfl

theorem nextEnvelope (h : q.Alike q') (sender : Member) (p : Parcel) :
    q'.nextEnvelope sender p = q.nextEnvelope sender p := by rw [h]; rfl

theorem append (h : q.Alike q') (sender : Member) (p : Parcel) :
    (q.append sender p).Alike (q'.append sender p) := by
  rw [h]
  rfl

theorem answer (h : q.Alike q') (me : Waiter) : (q.answer me).Alike (q'.answer me) := by
  rw [h]
  rfl

/-- Ringing calls the same waiter, if it calls anybody. -/
theorem ring (h : q.Alike q') : q'.ring.1 = q.ring.1 ∧ q.ring.2.Alike q'.ring.2 := by
  rw [h, Queue.ring, Queue.ring]
  cases q.parked with
  | nil => exact ⟨rfl, rfl⟩
  | cons me rest => exact ⟨rfl, rfl⟩

/-- A look finds the same, whether a permit allows another look or not. -/
theorem poll (h : q.Alike q') (me : Waiter) :
    (q'.poll me).1 = (q.poll me).1 ∧ (q.poll me).2.Alike (q'.poll me).2 := by
  cases queued : q.envelopes with
  | nil =>
    rw [poll_of_nil queued, poll_of_nil (h.envelopes.trans queued), h]
    exact ⟨rfl, rfl⟩
  | cons e rest =>
    rw [poll_of_cons queued, poll_of_cons (h.envelopes.trans queued), h]
    exact ⟨rfl, rfl⟩

theorem withdraw (h : q.Alike q') (me : Waiter) :
    (q'.withdraw me).1 = (q.withdraw me).1 ∧ (q.withdraw me).2.Alike (q'.withdraw me).2 := by
  unfold Queue.withdraw
  rw [h.called]
  split
  · exact (h.answer me).ring
  · rw [h]
    exact ⟨rfl, rfl⟩

end Queue.Alike

namespace World

/-- Two worlds that have the same cells and the same queues but for their permits, where the same
was logged after what stood in their logs before. -/
structure Alike (before before' : List Event) (w w' : World) : Prop where
  rest : w' = { w with queues := w'.queues, log := w'.log }
  queues : ∀ q, (w.queue q).Alike (w'.queue q)
  log : ∃ events, w.log = before ++ events ∧ w'.log = before' ++ events

namespace Alike

variable {before before' : List Event} {w w' : World}

theorem registry (h : Alike before before' w w') (r : RegistryId) :
    w'.registry r = w.registry r := by rw [h.rest]; rfl

theorem engines (h : Alike before before' w w') : w'.engines = w.engines := by rw [h.rest]

theorem messagings (h : Alike before before' w w') : w'.messagings = w.messagings := by rw [h.rest]

theorem marshallings (h : Alike before before' w w') : w'.marshallings = w.marshallings := by
  rw [h.rest]

theorem persistences (h : Alike before before' w w') : w'.persistences = w.persistences := by
  rw [h.rest]

theorem linkCount (h : Alike before before' w w') : w'.linkCount = w.linkCount := by rw [h.rest]

theorem ready (h : Alike before before' w w') : w'.ready = w.ready := by rw [h.rest]

/-- A change that knows nothing of queues and of the log. -/
theorem change (h : Alike before before' w w') {f : World → World}
    (apart : ∀ w queues log, f { w with queues, log } = { f w with queues, log }) :
    Alike before before' (f w) (f w') := by
  have same : ∀ w, (f w).queues = w.queues ∧ (f w).log = w.log := fun w => by
    have own : f w = { f w with queues := w.queues, log := w.log } := apart w w.queues w.log
    rw [own]
    exact ⟨rfl, rfl⟩
  have moved : f w' = { f w with queues := w'.queues, log := w'.log } := by
    rw [← apart, ← h.rest]
  refine ⟨?_, fun q => ?_, ?_⟩
  · rw [(same w').1, (same w').2]
    exact moved
  · rw [queue, queue, (same w).1, (same w').1]
    exact h.queues q
  · rw [(same w).2, (same w').2]
    exact h.log

theorem note (h : Alike before before' w w') (e : Event) :
    Alike before before' (w.note e) (w'.note e) := by
  obtain ⟨events, log, log'⟩ := h.log
  refine ⟨?_, h.queues, events ++ [e], ?_, ?_⟩
  · rw [World.note, h.rest]
    rfl
  · rw [World.note, log, List.append_assoc]
  · rw [World.note, log', List.append_assoc]

/-- One queue changes alike, and the same are called. -/
theorem setQueue (h : Alike before before' w w') (q : QueueId) {own own' : Queue}
    (alike : own.Alike own') (called : List Waiter) : Alike before before'
      { w with queues := w.queues.set q own, ready := w.ready ++ called }
      { w' with queues := w'.queues.set q own', ready := w'.ready ++ called } := by
  refine ⟨?_, fun q' => ?_, h.log⟩
  · rw [h.rest]
  · by_cases hq : q' = q
    · subst hq
      simpa [queue] using alike
    · simpa [queue, hq] using h.queues q'

/-! ## Messages -/

theorem push (h : Alike before before' w w') (q : QueueId) (sender : Member) (p : Parcel) :
    Alike before before' (w.push q sender p) (w'.push q sender p) := by
  obtain ⟨called, alike⟩ := ((h.queues q).append sender p).ring
  unfold World.push
  dsimp only
  rw [called]
  exact h.setQueue q alike _

theorem send (h : Alike before before' w w') (s : Session) (p : Payload) :
    Alike before before' (w.send s p) (w'.send s p) := by
  unfold World.send World.sendParcel
  rw [(h.queues s.outbound).nextEnvelope]
  exact (h.push s.outbound s.owner (.pack p)).note _

theorem awaitMessage (h : Alike before before' w w') (s : Session) (k : Kind) :
    Alike before before' (w.awaitMessage s k) (w'.awaitMessage s k) := by
  unfold World.awaitMessage
  rw [(h.queues s.inbound).isEmpty]
  split
  · exact h.note _
  · exact h

/-- A look finds the same in both worlds. -/
theorem lookFor (h : Alike before before' w w') (me : Waiter) (s : Session) :
    (w'.lookFor me s).1 = (w.lookFor me s).1 ∧
      Alike before before' (w.lookFor me s).2 (w'.lookFor me s).2 := by
  obtain ⟨found, alike⟩ := (h.queues s.inbound).poll me
  have looked := h.setQueue s.inbound alike []
  simp only [List.append_nil] at looked
  unfold World.lookFor
  revert found looked
  rcases (w.queue s.inbound).poll me with ⟨e, q⟩
  rcases (w'.queue s.inbound).poll me with ⟨e', q'⟩
  rintro ⟨⟩ looked
  cases e with
  | none => exact ⟨rfl, looked⟩
  | some e => exact ⟨rfl, looked.note _⟩

theorem answerCall (h : Alike before before' w w') (me : Waiter) (s : Session) :
    Alike before before' (w.answerCall me s) (w'.answerCall me s) := by
  have answered := h.setQueue s.inbound ((h.queues s.inbound).answer me) []
  simp only [List.append_nil] at answered
  exact answered

theorem withdraw (h : Alike before before' w w') (me : Waiter) (s : Session) :
    Alike before before' (w.withdraw me s) (w'.withdraw me s) := by
  obtain ⟨called, alike⟩ := (h.queues s.inbound).withdraw me
  unfold World.withdraw
  dsimp only
  rw [called]
  exact h.setQueue s.inbound alike _

theorem pendingInbound (h : Alike before before' w w') (s : Session) :
    w'.pendingInbound s = w.pendingInbound s := by
  rw [World.pendingInbound, (h.queues s.inbound).envelopes]
  rfl

theorem pendingKinds (h : Alike before before' w w') (l : Link) :
    w'.pendingKinds l = w.pendingKinds l := by
  rw [World.pendingKinds, (h.queues (l.queue .a)).kinds, (h.queues (l.queue .b)).kinds]
  rfl

theorem pendingMessages (h : Alike before before' w w') (l : Link) :
    w'.pendingMessages l = w.pendingMessages l := by
  rw [World.pendingMessages, (h.queues (l.queue .a)).envelopes, (h.queues (l.queue .b)).envelopes]
  rfl

/-! ## Registries and links -/

theorem addRegistry (h : Alike before before' w w') (participant : String)
    (services : List (Capability × MockId)) :
    (w'.addRegistry participant services).1 = (w.addRegistry participant services).1 ∧
      Alike before before' (w.addRegistry participant services).2
        (w'.addRegistry participant services).2 := by
  have count : w'.registryCount = w.registryCount := by rw [h.rest]
  unfold World.addRegistry
  dsimp only
  rw [count]
  exact ⟨rfl, (h.note _).change (f := fun w => { w with
    registries := w.registries.set _ _, registryCount := _ }) fun _ _ _ => rfl⟩

theorem freshServices (h : Alike before before' w w') (capabilities : List Capability) :
    (w'.freshServices capabilities).1 = (w.freshServices capabilities).1 ∧
      Alike before before' (w.freshServices capabilities).2
        (w'.freshServices capabilities).2 := by
  have count : w'.mockCount = w.mockCount := by rw [h.rest]
  rw [World.freshServices_eq, World.freshServices_eq, count]
  exact ⟨rfl, h.change (f := fun w => { w with mockCount := _ }) fun _ _ _ => rfl⟩

theorem addService (h : Alike before before' w w') (r : RegistryId) (c : Capability) :
    (w'.addService r c).1 = (w.addService r c).1 ∧
      Alike before before' (w.addService r c).2 (w'.addService r c).2 := by
  have count : w'.mockCount = w.mockCount := by rw [h.rest]
  have added := h.change (f := fun w => { w with
    registries := w.registries.modify r fun registry => registry.add c w.mockCount
    mockCount := w.mockCount + 1 }) fun _ _ _ => rfl
  have participant := congrArg Registry.participant (added.registry r)
  refine ⟨count, ?_⟩
  unfold World.addService
  dsimp only at participant ⊢
  rw [participant]
  exact added.note _

theorem sealRegistry (h : Alike before before' w w') (r : RegistryId) :
    Alike before before' (w.sealRegistry r) (w'.sealRegistry r) := by
  unfold World.sealRegistry
  dsimp only
  rw [h.registry]
  split
  · exact h
  · exact (h.change (f := fun w' => { w' with
      registries := w'.registries.set r { w.registry r with isSealed := true } })
      fun _ _ _ => rfl).note _

theorem mock (h : Alike before before' w w') (r : RegistryId) (c : Capability) :
    w'.mock r c = w.mock r c := by
  rw [World.mock, World.mock, h.registry]

theorem memberOf (h : Alike before before' w w') (r : RegistryId) :
    w'.memberOf r = w.memberOf r := by
  rw [World.memberOf, World.memberOf, h.mock, h.engines]

theorem addLink (h : Alike before before' w w') (a b : Member) :
    (w'.addLink a b).1 = (w.addLink a b).1 ∧
      Alike before before' (w.addLink a b).2 (w'.addLink a b).2 := by
  unfold World.addLink
  dsimp only
  rw [h.linkCount]
  exact ⟨rfl, (h.note _).change (f := fun w => { w with linkCount := _ }) fun _ _ _ => rfl⟩

theorem attach (h : Alike before before' w w') (m : MockId) (s : Session) :
    Alike before before' (w.attach m s) (w'.attach m s) := by
  have attached := h.change (f := fun w => { w with
    messagings := w.messagings.set m ((w.messagings.get m).attach s) }) fun _ _ _ => rfl
  unfold World.attach
  dsimp only
  rw [h.messagings] at attached ⊢
  split
  · exact attached.note _
  · exact attached.note _

theorem attachTo (h : Alike before before' w w') (r : RegistryId) (s : Session) :
    Alike before before' (w.attachTo r s) (w'.attachTo r s) := by
  unfold World.attachTo
  rw [h.registry]
  split
  · exact h.attach _ s
  · exact h

end Alike

end World

/-! ## Actions -/

namespace Act

variable {α β : Type}

/-- Nobody who does this can tell alike worlds apart. -/
def IsBlind (a : Act α) : Prop :=
  ∀ before before', Agrees (World.Alike before before') a

theorem blind_pure (a : α) : IsBlind (pure a) := fun _ _ => agrees_pure a

theorem blind_throw (e : Error) : IsBlind (throw e : Act α) := fun _ _ => agrees_throw e

theorem IsBlind.bind {a : Act α} {f : α → Act β} (ha : IsBlind a) (hf : ∀ x, IsBlind (f x)) :
    IsBlind (a >>= f) :=
  fun before before' => (ha before before').bind fun x => hf x before before'

theorem IsBlind.attempt {a : Act α} (h : IsBlind a) : IsBlind (attempt a) :=
  fun before before' => (h before before').attempt

theorem blind_get {f : World → Act β}
    (same : ∀ before before' w w', World.Alike before before' w w' → f w' = f w)
    (hf : ∀ w, IsBlind (f w)) : IsBlind (get >>= f) :=
  fun before before' => agrees_get (same before before') fun w => hf w before before'

theorem blind_ask {question : World → Except Error α}
    (same : ∀ before before' w w', World.Alike before before' w w' → question w' = question w) :
    IsBlind (ask question) :=
  fun before before' => agrees_ask (same before before')

/-- A change that knows nothing of queues and of the log. -/
theorem blind_modify {f : World → World}
    (apart : ∀ w queues log, f { w with queues, log } = { f w with queues, log }) :
    IsBlind (modify f) :=
  fun _ _ => agrees_modify fun _ _ h => h.change apart

theorem blind_note (e : Event) : IsBlind (note e) :=
  fun _ _ => agrees_modify fun _ _ h => h.note e

theorem blind_newRegistry (participant : String) : IsBlind (newRegistry participant) :=
  fun _ _ => agrees_modifyGet fun _ _ h => h.addRegistry participant []

theorem blind_buildRegistry (participant : String) (capabilities : List Capability) :
    IsBlind (buildRegistry participant capabilities) := by
  refine fun _ _ => agrees_modifyGet fun w w' h => ?_
  obtain ⟨services, fresh⟩ := h.freshServices capabilities
  dsimp only
  rw [services]
  exact fresh.addRegistry participant _

theorem blind_register (r : RegistryId) (c : Capability) : IsBlind (register r c) := by
  refine blind_get (fun _ _ w w' h => by dsimp only; rw [h.registry]) fun w => ?_
  dsimp only
  split
  · exact blind_pure _
  · split
    · exact blind_throw _
    · exact fun _ _ => agrees_modifyGet fun _ _ h => h.addService r c

theorem blind_mock (r : RegistryId) (c : Capability) : IsBlind (mock r c) :=
  blind_ask fun _ _ _ _ h => h.mock r c

theorem blind_inject (flow : String) (declared : List Capability) (r : RegistryId)
    (c : Capability) : IsBlind (inject flow declared r c) := by
  unfold inject
  dsimp only
  split
  on_goal 1 => refine (blind_throw _).bind fun _ => ?_
  all_goals
    -- The rest of the command stands in both branches of its first check.
    refine blind_get (fun _ _ w w' h => by rw [h.registry]) fun w => ?_
    split
    · exact blind_pure _
    · exact blind_throw _

/-- A constructor may do anything that it can do. -/
theorem blind_construct (flow : String) (declared : List Capability) (r : RegistryId)
    (c : Constructor α) : IsBlind (construct flow declared r c) := by
  induction c with
  | built a => exact blind_pure a
  | failed e => exact blind_throw e
  | register c next ih => exact (blind_register r c).attempt.bind ih
  | inject c next ih => exact (blind_inject flow declared r c).attempt.bind ih

theorem blind_createFlow (r : RegistryId) (flow : Blueprint α) : IsBlind (createFlow r flow) := by
  refine blind_get (fun _ _ w w' h => by dsimp only; rw [h.registry]) fun w => ?_
  dsimp only
  split
  · exact blind_throw _
  · refine (blind_construct _ _ _ _).bind fun built => ?_
    refine IsBlind.bind (fun _ _ => agrees_modify fun _ _ h => h.sealRegistry r) fun _ => ?_
    exact (blind_note _).bind fun _ => blind_pure built

theorem blind_setNodeName (m : MockId) (name : Member) : IsBlind (setNodeName m name) :=
  blind_modify fun _ _ _ => rfl

theorem blind_nodeName (m : MockId) : IsBlind (nodeName m) :=
  blind_ask fun _ _ _ _ h => by rw [h.engines]

theorem blind_setSubFlow (m : MockId) (flow : String) (result : Json) :
    IsBlind (setSubFlow m flow result) :=
  blind_modify fun _ _ _ => rfl

theorem blind_subFlow (m : MockId) (flow : String) (input : Json) :
    IsBlind (subFlow m flow input) :=
  (blind_modify fun _ _ _ => rfl).bind fun _ => blind_ask fun _ _ _ _ h => by rw [h.engines]

theorem blind_initiate (m : MockId) (counterparty : Member) : IsBlind (initiate m counterparty) :=
  (blind_modify fun _ _ _ => rfl).bind fun _ => blind_ask fun _ _ _ _ h => by rw [h.messagings]

theorem blind_format (m : MockId) (p : Payload) : IsBlind (format m p) :=
  (blind_modify fun _ _ _ => rfl).bind fun _ => blind_ask fun _ _ _ _ _ => rfl

theorem blind_parse (m : MockId) (k : Kind) (text : String) : IsBlind (parse m k text) :=
  (blind_modify fun _ _ _ => rfl).bind fun _ => blind_ask fun _ _ _ _ _ => rfl

theorem blind_persist (m : MockId) (p : Payload) : IsBlind (persist m p) :=
  (blind_ask fun _ _ _ _ _ => rfl).bind fun _ => blind_modify fun _ _ _ => rfl

theorem blind_findAll (m : MockId) (k : Kind) : IsBlind (findAll m k) :=
  blind_ask fun _ _ _ _ h => by rw [h.persistences]

theorem blind_linkMembers (a b : Member) : IsBlind (linkMembers a b) :=
  fun _ _ => agrees_modifyGet fun _ _ h => h.addLink a b

theorem blind_linkRegistries (a b : RegistryId) : IsBlind (linkRegistries a b) := by
  refine (blind_ask fun _ _ _ _ h => h.memberOf a).bind fun memberA => ?_
  refine (blind_ask fun _ _ _ _ h => h.memberOf b).bind fun memberB => ?_
  refine (blind_linkMembers memberA memberB).bind fun l => ?_
  refine IsBlind.bind (fun _ _ => agrees_modify fun _ _ h => ?_) fun _ => blind_pure l
  exact (h.attachTo a _).attachTo b _

theorem blind_failIfPending (l : Link) : IsBlind (failIfPending l) := by
  refine blind_get (fun _ _ w w' h => by rw [h.pendingMessages, h.pendingKinds]) fun w => ?_
  split
  · exact blind_pure _
  · exact (blind_note _).bind fun _ => blind_throw _

theorem blind_send (s : Session) (p : Payload) : IsBlind (send s p) :=
  fun _ _ => agrees_modify fun _ _ h => h.send s p

end Act

end Rehearsal
