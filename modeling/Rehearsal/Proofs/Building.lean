import Mathlib.Data.List.Forall2
import Mathlib.Data.List.Induction
import Rehearsal.Proofs.Alike.Runs
import Rehearsal.Proofs.Flow.Constructions

/-!
# Building and registering

A registry can be built with its capabilities, or made empty and have them registered one after the
other. Both come to the same registry with the same mocks, however often a capability is listed, and
whatever is done later comes to the same. Only the log tells how the registry was made.
-/

namespace Rehearsal

theorem Store.set_set {κ α : Type} [DecidableEq κ] (s : Store κ α) (k : κ) (a b : α) :
    (s.set k a).set k b = s.set k b := by
  simp [set]

/-- All that registering a new capability does. -/
theorem World.addService_eq (w : World) (r : RegistryId) (c : Capability) :
    (w.addService r c).2 = { w with
      registries := w.registries.set r ((w.registry r).add c w.mockCount)
      mockCount := w.mockCount + 1
      log := w.log ++ [.capabilityRegistered r (w.registry r).participant c] } := by
  unfold World.addService World.note World.registry
  dsimp only
  rw [Store.modify, Store.get_set_self]
  rfl

namespace Act

/-- A registry that is made empty, and then gets capabilities one after the other. -/
def makeRegistry (participant : String) (capabilities : List Capability) :
    Act (RegistryId × List MockId) := do
  let r ← newRegistry participant
  let mocks ← capabilities.mapM (register r)
  return (r, mocks)

variable {participant : String} {capabilities : List Capability} {w : World}

/-- What is logged while capabilities are registered with a new registry. -/
def registrations (participant : String) (r : RegistryId) (capabilities : List Capability) :
    List Event :=
  .registryCreated r participant 0 ::
    capabilities.eraseDups.map (.capabilityRegistered r participant)

/-- The registry with these capabilities, registered one after the other. -/
def withRegistrations (participant : String) (capabilities : List Capability) (w : World) : World :=
  { (buildRegistry participant capabilities w).2 with
    log := w.log ++ registrations participant w.registryCount capabilities }

theorem withRegistrations_eq (participant : String) (capabilities : List Capability) (w : World) :
    withRegistrations participant capabilities w = { w with
      registries := w.registries.set w.registryCount
        { participant, services := (w.freshServices capabilities).1 }
      registryCount := w.registryCount + 1
      mockCount := w.mockCount + capabilities.eraseDups.length
      log := w.log ++ registrations participant w.registryCount capabilities } := by
  rw [withRegistrations, buildRegistry_apply]

theorem registry_withRegistrations (participant : String) (capabilities : List Capability)
    (w : World) : (withRegistrations participant capabilities w).registry w.registryCount =
      { participant, services := (w.freshServices capabilities).1 } := by
  rw [withRegistrations_eq]
  exact Store.get_set_self ..

/-- One more capability that is not listed yet is one more service, with the next mock. -/
theorem withRegistrations_concat (participant : String) {cs : List Capability} {c : Capability}
    (w : World) (new : c ∉ cs) : withRegistrations participant (cs ++ [c]) w =
      ((withRegistrations participant cs w).addService w.registryCount c).2 := by
  have distinct : (cs ++ [c]).eraseDups = cs.eraseDups ++ [c] := by
    rw [eraseDups_concat, if_neg new]
  have services : (w.freshServices (cs ++ [c])).1 =
      (w.freshServices cs).1 ++ [(c, w.mockCount + cs.eraseDups.length)] := by
    rw [World.freshServices_eq, World.freshServices_eq, distinct, List.length_append,
      List.length_singleton, List.range'_concat, Nat.one_mul,
      List.zip_append List.length_range'.symm]
    rfl
  have logged : registrations participant w.registryCount (cs ++ [c]) =
      registrations participant w.registryCount cs ++
        [.capabilityRegistered w.registryCount participant c] := by
    rw [registrations, distinct, List.map_append]
    rfl
  rw [World.addService_eq, registry_withRegistrations, withRegistrations_eq, withRegistrations_eq,
    Store.set_set, services, logged, distinct, List.length_append, ← List.append_assoc]
  rfl

/-- Registering one more capability comes to building the registry with one more. -/
theorem register_withRegistrations (participant : String) (cs : List Capability) (c : Capability)
    (w : World) : ∃ m, register w.registryCount c (withRegistrations participant cs w) =
      (.ok m, withRegistrations participant (cs ++ [c]) w) := by
  have registry := registry_withRegistrations participant cs w
  have listed : (({ participant, services := (w.freshServices cs).1 } : Registry).contains c) ↔
      c ∈ cs := by
    rw [Registry.contains_iff, World.fst_freshServices, List.mem_eraseDups]
  rw [register_apply, registry]
  by_cases there : c ∈ cs
  · have same : withRegistrations participant (cs ++ [c]) w =
        withRegistrations participant cs w := by
      rw [withRegistrations_eq, withRegistrations_eq, World.freshServices_eq,
        World.freshServices_eq, registrations, registrations, eraseDups_concat, if_pos there]
    obtain ⟨m, found⟩ := Option.isSome_iff_exists.mp (listed.mpr there)
    rw [show Registry.mock? _ c = some m from found, same]
    exact ⟨m, rfl⟩
  · have lacks : ({ participant, services := (w.freshServices cs).1 } : Registry).mock? c =
        none := Option.not_isSome_iff_eq_none.mp fun has => there (listed.mp has)
    rw [lacks, withRegistrations_concat participant w there]
    exact ⟨_, rfl⟩

/-- Registering capabilities with a new registry comes to building it with them, and hands out the
mocks that it is built with. -/
theorem mapM_register (participant : String) (capabilities : List Capability) (w : World) :
    ∃ mocks, capabilities.mapM (register w.registryCount) (newRegistry participant w).2 =
        (.ok mocks, withRegistrations participant capabilities w) ∧
      List.Forall₂ (fun c m => ((withRegistrations participant capabilities w).registry
        w.registryCount).mock? c = some m) capabilities mocks := by
  -- Of several equal capabilities the first counts, so the list is taken from its end.
  induction capabilities using List.reverseRecOn with
  | nil =>
    refine ⟨[], ?_, .nil⟩
    rw [List.mapM_nil, withRegistrations_eq]
    rfl
  | append_singleton cs c ih =>
    obtain ⟨mocks, all, handed⟩ := ih
    obtain ⟨m, last⟩ := register_withRegistrations participant cs c w
    refine ⟨mocks ++ [m], ?_, ?_⟩
    · rw [List.mapM_append, bind_apply, all]
      dsimp only
      rw [List.mapM_cons, bind_apply, bind_apply, last]
      rfl
    · have grown : ∀ d n, ((withRegistrations participant (cs ++ [c]) w).registry
          w.registryCount).mock? d = some n ↔
          ((withRegistrations participant cs w).registry w.registryCount).mock? d = some n ∨
            d = c ∧ n = m := fun d n => by
        have found := mock?_register (d := d) (m := n) w.registryCount c
          (withRegistrations participant cs w)
        rw [last, Except.ok.injEq] at found
        rw [found, eq_comm (a := m)]
      have before := handed.imp fun d n there => (grown d n).mpr (.inl there)
      exact List.rel_append before (.cons ((grown c m).mpr (.inr ⟨rfl, rfl⟩)) .nil)

theorem makeRegistry_apply (participant : String) (capabilities : List Capability) (w : World) :
    ∃ mocks, makeRegistry participant capabilities w =
        (.ok (w.registryCount, mocks), withRegistrations participant capabilities w) ∧
      List.Forall₂ (fun c m => ((withRegistrations participant capabilities w).registry
        w.registryCount).mock? c = some m) capabilities mocks := by
  obtain ⟨mocks, all, handed⟩ := mapM_register participant capabilities w
  have made : newRegistry participant w =
      (.ok w.registryCount, (newRegistry participant w).2) := rfl
  refine ⟨mocks, ?_, handed⟩
  rw [makeRegistry, bind_apply, made]
  dsimp only
  rw [bind_apply, all]
  rfl

end Act

/-! ## Whatever comes later -/

/-- Every operation does the same in worlds that differ in their past. -/
theorem Operation.alike_run {before before' : List Event} {w w' : World}
    (h : World.Alike before before' w w') (op : Operation) :
    World.Alike before before' (op.run w) (op.run w') := by
  have acts : ∀ {α : Type} {a : Act α}, a.IsBlind → World.Alike before before' (a w).2 (a w').2 :=
    fun blind => (blind before before' w w' h).2
  cases op with
  | build participant capabilities => exact acts (Act.blind_buildRegistry participant capabilities)
  | register r c => exact acts (Act.blind_register r c)
  | create r flow => exact acts (Act.blind_createFlow r flow)
  | linkMembers a b => exact acts (Act.blind_linkMembers a b)
  | linkRegistries a b => exact acts (Act.blind_linkRegistries a b)
  | check l => exact acts (Act.blind_failIfPending l)
  | setNodeName m name => exact acts (Act.blind_setNodeName m name)
  | setSubFlow m flow result => exact acts (Act.blind_setSubFlow m flow result)
  | subFlow m flow input => exact acts (Act.blind_subFlow m flow input)
  | initiate m counterparty => exact acts (Act.blind_initiate m counterparty)
  | format m p => exact acts (Act.blind_format m p)
  | parse m k text => exact acts (Act.blind_parse m k text)
  | persist m p => exact acts (Act.blind_persist m p)
  | send s p => exact acts (Act.blind_send s p)
  | await s expected => exact h.awaitMessage s expected
  | look me s => exact (h.lookFor me s).2
  | answer me s => exact h.answerCall me s
  | withdraw me s => exact h.withdraw me s
  | ready waiters => exact h.change (f := fun w => { w with ready := waiters }) fun _ _ _ => rfl
  | note e => exact h.note e

theorem Operation.alike_foldl {before before' : List Event} {w w' : World}
    (h : World.Alike before before' w w') (ops : List Operation) :
    World.Alike before before' (ops.foldl run w) (ops.foldl run w') := by
  induction ops generalizing w w' with
  | nil => exact h
  | cons op ops ih => exact ih (alike_run h op)

/-- Whatever registries are asked in one world or in the other, the answer is the same, with the
same mocks; and what was logged since is the same. -/
structure World.Indistinct (before before' : List Event) (w w' : World) : Prop where
  register : ∀ r c, (Act.register r c w').1 = (Act.register r c w).1
  lookUp : ∀ r c, (Act.mock r c w').1 = (Act.mock r c w).1
  contains : ∀ r c, (w'.registry r).contains c = (w.registry r).contains c
  capabilityNames : ∀ r, (w'.registry r).capabilityNames = (w.registry r).capabilityNames
  isSealed : ∀ r, (w'.registry r).isSealed = (w.registry r).isSealed
  participant : ∀ r, (w'.registry r).participant = (w.registry r).participant
  createFlow : ∀ {α : Type} r (flow : Blueprint α),
    (Act.createFlow r flow w').1 = (Act.createFlow r flow w).1
  linkRegistries : ∀ a b, (Act.linkRegistries a b w').1 = (Act.linkRegistries a b w).1
  log : ∃ events, w.log = before ++ events ∧ w'.log = before' ++ events

theorem World.Alike.indistinct {before before' : List Event} {w w' : World}
    (h : World.Alike before before' w w') : World.Indistinct before before' w w' where
  register r c := (Act.blind_register r c before before' w w' h).1
  lookUp r c := (Act.blind_mock r c before before' w w' h).1
  contains r c := by rw [h.registry]
  capabilityNames r := by rw [h.registry]
  isSealed r := by rw [h.registry]
  participant r := by rw [h.registry]
  createFlow r flow := (Act.blind_createFlow r flow before before' w w' h).1
  linkRegistries a b := (Act.blind_linkRegistries a b before before' w w' h).1
  log := h.log

/-- **Building and registering agree.** A registry that is built with capabilities and one that is
made empty and gets them one after the other are the same registry with the same mocks, and all that
registering handed out is found in the other. The log tells how each was made. After whatever row of
operations, every call on registries is answered the same in both worlds and what was logged since
is the same. So is every later scenario, in which registries are copied, flows are built and called,
and bodies are driven. -/
theorem Act.building_agrees [Clock] (participant : String) (capabilities : List Capability)
    (w : World) :
    ∃ r mocks built made,
      buildRegistry participant capabilities w = (.ok r, built) ∧
      makeRegistry participant capabilities w = (.ok (r, mocks), made) ∧
      List.Forall₂ (fun c m => (built.registry r).mock? c = some m) capabilities mocks ∧
      built.log = w.log ++ [.registryCreated r participant capabilities.eraseDups.length] ∧
      made.log = w.log ++ registrations participant r capabilities ∧
      (∀ ops : List Operation, World.Indistinct built.log made.log (ops.foldl Operation.run built)
        (ops.foldl Operation.run made)) ∧
      ∀ (stage : Stage) name steps,
        runSteps { stage with world := made, registries := (name, r) :: stage.registries } steps =
        runSteps { stage with world := built, registries := (name, r) :: stage.registries }
          steps := by
  obtain ⟨mocks, made, handed⟩ := makeRegistry_apply participant capabilities w
  have build := buildRegistry_apply participant capabilities w
  let built := (buildRegistry participant capabilities w).2
  have alike : World.Alike built.log (withRegistrations participant capabilities w).log built
      (withRegistrations participant capabilities w) :=
    ⟨rfl, fun _ => .refl _, [], by simp⟩
  have logged : built.log =
      w.log ++ [.registryCreated w.registryCount participant capabilities.eraseDups.length] := by
    have services := congrArg List.length (w.fst_freshServices capabilities)
    rw [List.length_map] at services
    rw [← services]
    exact congrArg (fun result => World.log result.2) build
  refine ⟨w.registryCount, mocks, built, _, Prod.ext (by rw [build]) rfl, made, handed, logged, rfl,
    fun ops => (Operation.alike_foldl alike ops).indistinct, fun stage name steps => ?_⟩
  have alike' : Stage.Alike built.log (withRegistrations participant capabilities w).log
      { stage with world := built, registries := (name, w.registryCount) :: stage.registries }
      { stage with
        world := withRegistrations participant capabilities w
        registries := (name, w.registryCount) :: stage.registries } := ⟨rfl, alike⟩
  exact alike'.runSteps steps

attribute [local instance] Clock.usual

/-- An engine that is listed twice is one engine, built or registered. -/
theorem Act.building_agrees_twice : ∃ built made,
    buildRegistry "Alice" [.engine, .messaging, .engine] {} = (.ok 0, built) ∧
    makeRegistry "Alice" [.engine, .messaging, .engine] {} = (.ok (0, [0, 1, 0]), made) ∧
    built.log.length = 1 ∧ made.log.length = 3 ∧
    (built.registry 0).mock? .engine = some 0 ∧
    ∀ ops : List Operation, World.Indistinct built.log made.log (ops.foldl Operation.run built)
      (ops.foldl Operation.run made) := by
  obtain ⟨r, mocks, built, made, build, make, handed, log, log', later, -⟩ :=
    building_agrees "Alice" [.engine, .messaging, .engine] {}
  have first : r = 0 := by
    cases build
    rfl
  subst first
  cases build
  have given : (makeRegistry "Alice" [.engine, .messaging, .engine] {}).1 =
      .ok (0, [0, 1, 0]) := rfl
  rw [make] at given
  cases given
  exact ⟨_, made, rfl, make, rfl, by rw [log']; rfl, rfl, later⟩

end Rehearsal
