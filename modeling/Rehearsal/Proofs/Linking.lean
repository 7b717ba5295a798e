import Rehearsal.Proofs.Chat.Couples
import Rehearsal.Proofs.Drive.Histories
import Rehearsal.Proofs.World.Mocks

/-!
# Linking two registries

Two registries are linked or nothing happens. All that can fail comes first: each registry must run
as a member, the first before the second is asked. Then the link is there, and its sessions are
attached where there are messaging mocks, which cannot fail any more. It does not matter whether the
registries are one and the same, or sealed.
-/

namespace Rehearsal

namespace World

variable {w w' : World} {a b r : RegistryId} {own peer : Member} {l : Link}

/-! ## Who a registry runs as -/

/-- A registry has an engine, and this is the name that the engine is stubbed with. -/
def RunsAs (w : World) (r : RegistryId) (name : Member) : Prop :=
  ∃ m, (w.registry r).mock? .engine = some m ∧ (w.engines.get m).nodeName = some name

/-- Why a registry runs as nobody. -/
inductive Nameless (w : World) (r : RegistryId) : Error → Prop where
  | lacksEngine (lacks : (w.registry r).mock? .engine = none) :
      Nameless w r (.capabilityNotRegistered (w.registry r).participant "FlowEngine")
  | unstubbed {m : MockId} (engine : (w.registry r).mock? .engine = some m)
      (unnamed : (w.engines.get m).nodeName = none) :
      Nameless w r (.unstubbedCall "FlowEngine" "virtual_node_name")

theorem memberOf_of_no_engine (h : (w.registry r).mock? .engine = none) : w.memberOf r =
    .error (.capabilityNotRegistered (w.registry r).participant "FlowEngine") := by
  rw [memberOf, mock, h]
  rfl

theorem memberOf_eq_ok : w.memberOf r = .ok own ↔ w.RunsAs r own := by
  unfold RunsAs
  cases engine : (w.registry r).mock? .engine with
  | none => simp [memberOf_of_no_engine engine]
  | some m =>
    rw [memberOf_of_engine engine, Engine.virtualNodeName]
    cases named : (w.engines.get m).nodeName <;> simp [named]

theorem memberOf_eq_error {e : Error} : w.memberOf r = .error e ↔ w.Nameless r e := by
  constructor
  · intro failed
    cases engine : (w.registry r).mock? .engine with
    | none =>
      rw [memberOf_of_no_engine engine] at failed
      cases failed
      exact .lacksEngine engine
    | some m =>
      rw [memberOf_of_engine engine, Engine.virtualNodeName] at failed
      cases unnamed : (w.engines.get m).nodeName with
      | some n =>
        rw [unnamed] at failed
        cases failed
      | none =>
        rw [unnamed] at failed
        cases failed
        exact .unstubbed engine unnamed
  · rintro (lacks | ⟨engine, unnamed⟩)
    · exact memberOf_of_no_engine lacks
    · rw [memberOf_of_engine engine, Engine.virtualNodeName, unnamed]

/-! ## What a new link changes -/

/-- The link is new, and all that changed besides is that its sessions were attached. -/
structure Joins (w : World) (a b : RegistryId) (own peer : Member) (l : Link) (w' : World) :
    Prop where
  links : w'.links = w.links ++ [l]
  /-- It shares no queue with another link. -/
  apart : ∀ other ∈ w.links, other.number ≠ l.number
  owners : (l.session .a).owner = own ∧ (l.session .b).owner = peer
  counterparties : (l.session .a).counterparty = peer ∧ (l.session .b).counterparty = own
  empty : ∀ side, (w'.queue (l.queue side)).envelopes = []
  /-- Each messaging mock got the ends of its own registries, side `a` first. -/
  attached : ∀ m, w'.messagings.get m =
    (Operation.ownEnds w m a b l).foldl Messaging.attach (w.messagings.get m)
  /-- Registries, queues and all other mocks are as before. -/
  others : ∃ events, (∀ e ∈ events, IsAttachment (l.session .a) e ∨ IsAttachment (l.session .b) e) ∧
    w' = { w with
      messagings := w'.messagings
      linkCount := w.linkCount + 1
      log := w.log ++ .linkCreated l :: events }

/-- **A link that is added and attached** joins two registries. -/
theorem Exchange.joins {ts : List Transfer} (history : Exchange {} ts w) (a b : RegistryId)
    (own peer : Member) :
    Joins w a b own peer (w.addLink own peer).1
      (((w.addLink own peer).2.attachTo a ((w.addLink own peer).1.session .a)).attachTo b
        ((w.addLink own peer).1.session .b)) := by
  obtain ⟨messagings, events, attachments, same, attached⟩ :=
    (w.addLink own peer).2.attachTo_attachTo a b ((w.addLink own peer).1.session .a)
      ((w.addLink own peer).1.session .b)
  rw [same]
  generalize hl : (w.addLink own peer).1 = l at attachments attached ⊢
  obtain rfl : ⟨w.linkCount, own, peer⟩ = l := hl
  refine ⟨?_, fun other there => ?_, ⟨rfl, rfl⟩, ⟨rfl, rfl⟩, fun side => ?_, attached,
    events, attachments, ?_⟩
  · have silent : events.filterMap Event.link? = [] := by
      refine List.filterMap_eq_nil_iff.mpr fun e he => ?_
      rcases attachments e he with (rfl | rfl) | (rfl | rfl) <;> rfl
    show ((w.log ++ [Event.linkCreated _]) ++ events).filterMap Event.link? = _
    rw [List.filterMap_append, silent, List.append_nil, List.filterMap_append]
    rfl
  · have number : other.number ∈ w.links.map Link.number := List.mem_map_of_mem there
    rw [(history.linked .empty).numbers] at number
    exact Nat.ne_of_lt (List.mem_range.mp number)
  · exact history.empty_of_unmade (Nat.le_refl w.linkCount)
  · simp [addLink, note]

/-- **Linking is all or nothing.** Two registries are linked just when both run as members. If they
are not, the error is why the first does not, and only if it does, why the second does not, and the
world is as before. If they are, the new link joins them. -/
theorem Exchange.linking_all_or_nothing {ts : List Transfer} (history : Exchange {} ts w)
    (a b : RegistryId) :
    ((∃ l, (Act.linkRegistries a b w).1 = .ok l) ↔
      (∃ own, w.RunsAs a own) ∧ ∃ peer, w.RunsAs b peer) ∧
    (∀ e, (Act.linkRegistries a b w).1 = .error e ↔
      w.Nameless a e ∨ (∃ own, w.RunsAs a own) ∧ w.Nameless b e) ∧
    (∀ e, (Act.linkRegistries a b w).1 = .error e → (Act.linkRegistries a b w).2 = w) ∧
    ∀ l, (Act.linkRegistries a b w).1 = .ok l → ∃ own peer, w.RunsAs a own ∧ w.RunsAs b peer ∧
      Joins w a b own peer l (Act.linkRegistries a b w).2 := by
  simp only [← memberOf_eq_ok, ← memberOf_eq_error, Act.linkRegistries_apply]
  cases w.memberOf a with
  | error e => simp
  | ok own =>
    cases w.memberOf b with
    | error e => simp
    | ok peer =>
      refine ⟨by simp, by simp, by simp, fun l linked => ?_⟩
      cases linked
      exact ⟨own, peer, rfl, rfl, history.joins a b own peer⟩

end World

/-- Alice's registry is sealed and has a messaging mock, Bob's has none, one has no engine and one
an engine without a name. There is a link already. -/
def Run.linkable : Run :=
  .prepared [
    .buildRegistry "alice" "alice" [.engine, .messaging, .persistence]
      (some "O=Alice, L=Oslo, C=NO"),
    .buildRegistry "bob" "bob" [.engine] (some "O=Bob, L=Bonn, C=DE"),
    .buildRegistry "bare" "bare" [.messaging] none,
    .buildRegistry "unnamed" "unnamed" [.engine] none,
    .createFlow "alice" .incoming none, .linkRegistries "link" "alice" "bob"]

theorem World.linking_all_or_nothing_linkable :
    (Run.linkable.stage.world.registry 0).isSealed = true ∧
    (∀ b ∈ [0, 1], ∃ l, (Act.linkRegistries 0 b Run.linkable.stage.world).1 = .ok l ∧
      ∀ side, ((Act.linkRegistries 0 b Run.linkable.stage.world).2.queue
        (l.queue side)).envelopes = []) ∧
    Act.linkRegistries 0 2 Run.linkable.stage.world =
      (.error (.capabilityNotRegistered "bare" "FlowEngine"), Run.linkable.stage.world) ∧
    Act.linkRegistries 3 2 Run.linkable.stage.world =
      (.error (.unstubbedCall "FlowEngine" "virtual_node_name"), Run.linkable.stage.world) := by
  have reached : Run.linkable.Reached := (Run.reached_prepared _).1
  obtain ⟨ts, history⟩ := reached.exchange
  have alice : Run.linkable.stage.world.RunsAs 0 ⟨none, none, "Alice", "Oslo", none, "NO"⟩ :=
    ⟨0, by decide +kernel, by decide +kernel⟩
  have bob : Run.linkable.stage.world.RunsAs 1 ⟨none, none, "Bob", "Bonn", none, "DE"⟩ :=
    ⟨3, by decide +kernel, by decide +kernel⟩
  have bare : Run.linkable.stage.world.Nameless 2 (.capabilityNotRegistered "bare" "FlowEngine") :=
    .lacksEngine (r := 2) (by decide +kernel)
  have unnamed : Run.linkable.stage.world.Nameless 3
      (.unstubbedCall "FlowEngine" "virtual_node_name") :=
    .unstubbed (m := 5) (by decide +kernel) (by decide +kernel)
  refine ⟨by decide +kernel, fun b hb => ?_, ?_, ?_⟩
  · have named : ∃ peer, Run.linkable.stage.world.RunsAs b peer := by
      rcases List.mem_pair.mp hb with rfl | rfl
      exacts [⟨_, alice⟩, ⟨_, bob⟩]
    obtain ⟨linked, -, -, joined⟩ := history.linking_all_or_nothing 0 b
    obtain ⟨l, made⟩ := linked.mpr ⟨⟨_, alice⟩, named⟩
    obtain ⟨_, _, _, _, joins⟩ := joined l made
    exact ⟨l, made, joins.empty⟩
  · obtain ⟨-, failed, kept, -⟩ := history.linking_all_or_nothing 0 2
    have error := (failed _).mpr (.inr ⟨⟨_, alice⟩, bare⟩)
    exact Prod.ext error (kept _ error)
  · obtain ⟨-, failed, kept, -⟩ := history.linking_all_or_nothing 3 2
    have error := (failed _).mpr (.inl unnamed)
    exact Prod.ext error (kept _ error)

end Rehearsal
