import Rehearsal.Proofs.Drive.Changes
import Rehearsal.Proofs.World.Calls
import Rehearsal.Proofs.World.Enlistments
import Rehearsal.Proofs.World.Outcomes

/-!
# Couples

Two registries that chat. `Engaged` says that they have what the chat flows need and run as two
members; `Joined` says that there is a link between the two with nothing on it, the last one that
the initiator got for the other. Linking the registries joins them, and the flows that are built
from them run on their mocks.
-/

namespace Rehearsal

variable {w w' : World}

/-! ## Building flows and linking registries -/

theorem Registry.contains_of_mock? {r : Registry} {k : Capability} {m : MockId}
    (h : r.mock? k = some m) : r.contains k := by
  rw [Registry.contains, h]
  rfl

namespace World

/-- Nothing was ever sent on a link that is not made yet. -/
theorem Exchange.empty_of_unmade {ts : List Transfer} (exchange : Exchange {} ts w) {q : QueueId}
    (unmade : w.linkCount ≤ q.link) : (w.queue q).envelopes = [] := by
  have made : ∀ s, w.Made s → s.link < w.linkCount := by
    rintro s ⟨l, hl, side, rfl⟩
    have number : l.number ∈ w.links.map Link.number := List.mem_map_of_mem hl
    rw [(exchange.linked .empty).numbers] at number
    cases side <;> exact List.mem_range.mp number
  have nothing : ts.filterMap (Transfer.into? q) = [] := by
    refine List.filterMap_eq_nil_iff.mpr fun t ht => ?_
    have before := made t.session (exchange.made t ht)
    cases t with
    | taken => rfl
    | sent s p =>
      refine if_neg fun here => ?_
      have link : s.link = q.link := congrArg QueueId.link here
      rw [show (Transfer.sent s p).session = s from rfl, link] at before
      exact absurd before (Nat.not_lt.mpr unmade)
  have conserved := exchange.conserved q
  rw [nothing] at conserved
  exact (List.append_eq_nil_iff.mp conserved).2

end World

namespace Act

/-- A declared capability that is registered is handed out to the constructor. -/
theorem construct_injecting {α : Type} {flow : String} {declared : List Capability} {r : RegistryId}
    {k : Capability} {m : MockId} {next : MockId → Constructor α} (hk : declared.contains k)
    (found : (w.registry r).mock? k = some m) :
    construct flow declared r ((Constructor.injecting k).bind next) w =
      construct flow declared r (next m) w := by
  have given : attempt (inject flow declared r k) w = (.ok (.ok m), w) := by
    rw [attempt, inject_apply, if_pos hk, found]
  show construct flow declared r
    (.inject k fun x => (Constructor.ofExcept x).bind next) w = _
  rw [construct, bind_apply, given]
  rfl

/-- Building a flow whose dependencies are all registered gives what its constructor builds. -/
theorem createFlow_of_built {α : Type} {r : RegistryId} {flow : Blueprint α} {a : α}
    (all : ∀ k ∈ flow.dependencies, (w.registry r).contains k)
    (built : construct flow.name flow.dependencies r flow.constructor w = (.ok a, w)) :
    (createFlow r flow w).1 = .ok a := by
  have none : (flow.dependencies.find? fun k => !(w.registry r).contains k) = none :=
    List.find?_eq_none.mpr fun k hk => by simp [all k hk]
  rw [createFlow_apply, none]
  dsimp only
  rw [built]

end Act

/-! ## Couples -/

namespace Chat

/-- Two registries that chat, the members that they run as, and the mocks that their flows use. -/
structure Couple where
  initiator : RegistryId
  responder : RegistryId
  own : Member
  peer : Member
  outgoing : OutgoingFlow
  incoming : IncomingFlow

namespace Couple

/-- The registries are two, have what their flows need, and run as these members. -/
structure Engaged (c : Couple) (w : World) : Prop where
  apart : c.initiator ≠ c.responder
  messaging : (w.registry c.initiator).mock? .messaging = some c.outgoing.messaging
  marshalling : (w.registry c.initiator).mock? .marshalling = some c.outgoing.marshalling
  engine : (w.registry c.initiator).mock? .engine = some c.outgoing.engine
  persistence : (w.registry c.initiator).mock? .persistence = some c.outgoing.persistence
  peerEngine : (w.registry c.responder).mock? .engine = some c.incoming.engine
  peerPersistence : (w.registry c.responder).mock? .persistence = some c.incoming.persistence
  own : w.memberOf c.initiator = .ok c.own
  peer : w.memberOf c.responder = .ok c.peer

/-- A link from one to the other with nothing on it, and no later one for the same member. -/
structure Joined (c : Couple) (l : Link) (w : World) : Prop where
  engaged : c.Engaged w
  a : l.a = c.own
  b : l.b = c.peer
  attached : (w.messagings.get c.outgoing.messaging).session? c.peer = some (l.session .a)
  silent : w.pendingMessages l = 0

variable {c : Couple} {l : Link}

/-- Registries, and the names that engines run as, are all that counts. -/
theorem Engaged.of_same (h : c.Engaged w) (registries : w'.registries = w.registries)
    (engines : w'.engines = w.engines) : c.Engaged w' := by
  have registry : ∀ r, w'.registry r = w.registry r := fun r => by
    rw [World.registry, registries, ← World.registry]
  have member : ∀ r, w'.memberOf r = w.memberOf r := fun r => by
    simp only [World.memberOf, World.mock, registry, engines]
  refine ⟨h.apart, ?_, ?_, ?_, ?_, ?_, ?_, (member _).trans h.own, (member _).trans h.peer⟩
  all_goals rw [registry]
  exacts [h.messaging, h.marshalling, h.engine, h.persistence, h.peerEngine, h.peerPersistence]

/-- The two keep their records apart. -/
theorem Engaged.stores_apart (h : c.Engaged w) (owned : w.Owned) :
    c.outgoing.persistence ≠ c.incoming.persistence := by
  intro same
  have mine := Registry.mem_of_mock? h.persistence
  have theirs := Registry.mem_of_mock? h.peerPersistence
  rw [same] at mine
  exact h.apart (owned.owner _ _ _ _ _ mine theirs).1

theorem Engaged.ownName (h : c.Engaged w) :
    (w.engines.get c.outgoing.engine).virtualNodeName = .ok c.own := by
  rw [← World.memberOf_of_engine h.engine]
  exact h.own

theorem Engaged.peerName (h : c.Engaged w) :
    (w.engines.get c.incoming.engine).virtualNodeName = .ok c.peer := by
  rw [← World.memberOf_of_engine h.peerEngine]
  exact h.peer

/-! ## Building the flows -/

/-- The outgoing flow of a couple is the one that is built from the initiator. -/
theorem Engaged.createFlow_outgoing (h : c.Engaged w) :
    (Act.createFlow c.initiator OutgoingFlow.blueprint w).1 = .ok c.outgoing := by
  refine Act.createFlow_of_built (fun k hk => ?_) ?_
  · simp only [OutgoingFlow.blueprint, List.mem_cons, List.not_mem_nil, or_false] at hk
    rcases hk with rfl | rfl | rfl | rfl
    exacts [Registry.contains_of_mock? h.messaging, Registry.contains_of_mock? h.marshalling,
      Registry.contains_of_mock? h.engine, Registry.contains_of_mock? h.persistence]
  · refine (Act.construct_injecting (by decide) h.messaging).trans ?_
    refine (Act.construct_injecting (by decide) h.marshalling).trans ?_
    refine (Act.construct_injecting (by decide) h.engine).trans ?_
    exact Act.construct_injecting (by decide) h.persistence

/-- The incoming flow of a couple is the one that is built from the responder. -/
theorem Engaged.createFlow_incoming (h : c.Engaged w) :
    (Act.createFlow c.responder IncomingFlow.blueprint w).1 = .ok c.incoming := by
  refine Act.createFlow_of_built (fun k hk => ?_) ?_
  · simp only [IncomingFlow.blueprint, List.mem_cons, List.not_mem_nil, or_false] at hk
    rcases hk with rfl | rfl
    exacts [Registry.contains_of_mock? h.peerEngine, Registry.contains_of_mock? h.peerPersistence]
  · refine (Act.construct_injecting (by decide) h.peerEngine).trans ?_
    exact Act.construct_injecting (by decide) h.peerPersistence

/-! ## Linking -/

/-- **Linking** the registries of a couple joins them. -/
theorem Engaged.joined_of_linkRegistries (h : c.Engaged w) (owned : w.Owned)
    {ts : List Transfer} (exchange : World.Exchange {} ts w) : ∃ l w',
      Act.linkRegistries c.initiator c.responder w = (.ok l, w') ∧ c.Joined l w' := by
  rw [Act.linkRegistries_apply, h.own]
  dsimp only
  rw [h.peer]
  refine ⟨_, _, rfl, ?_⟩
  generalize hl : (w.addLink c.own c.peer).1 = l
  obtain rfl : ⟨w.linkCount, c.own, c.peer⟩ = l := hl
  obtain ⟨messagings, events, -, same, mine⟩ := (w.addLink c.own c.peer).2.attachTo_attachTo
    c.initiator c.responder (Link.session ⟨w.linkCount, c.own, c.peer⟩ .a)
    (Link.session ⟨w.linkCount, c.own, c.peer⟩ .b)
  rw [same]
  have ownMock : ((w.addLink c.own c.peer).2.registry c.initiator).mock? .messaging =
      some c.outgoing.messaging := h.messaging
  -- The responder's end goes to another mock, if it goes to any.
  have apart : ((w.addLink c.own c.peer).2.registry c.responder).mock? .messaging ≠
      some c.outgoing.messaging := fun there =>
    h.apart (owned.owner _ _ _ _ _ (Registry.mem_of_mock? h.messaging)
      (Registry.mem_of_mock? there)).1
  have attached : messagings.get c.outgoing.messaging = (w.messagings.get
      c.outgoing.messaging).attach (Link.session ⟨w.linkCount, c.own, c.peer⟩ .a) := by
    rw [mine, if_neg apart, if_pos ownMock]
    rfl
  refine ⟨h.of_same rfl rfl, rfl, rfl, ?_, ?_⟩
  · show (messagings.get c.outgoing.messaging).session? c.peer = _
    rw [attached]
    exact List.lookup_cons_self
  · have nothing : ∀ side, (w.queue ⟨w.linkCount, side⟩).envelopes = [] := fun side =>
      exchange.empty_of_unmade (Nat.le_refl w.linkCount)
    show (w.queue ⟨w.linkCount, .a⟩).envelopes.length +
      (w.queue ⟨w.linkCount, .b⟩).envelopes.length = 0
    rw [nothing, nothing]
    rfl

end Couple

end Chat

end Rehearsal
