import Mathlib.Data.List.Find
import Mathlib.Logic.Equiv.Basic
import Rehearsal.Proofs.Flow.Renaming
import Rehearsal.Proofs.Instantiation

/-!
# Worlds that mirror each other

Two worlds whose registries have the same mocks up to their numbers, one capability left aside,
mirror each other. What concerns only that capability is not seen by those who ask for others.
Registering, asking and building flows, as long as they leave it aside, are answered the same in
both worlds, and keep them mirrored: a mock that one of them makes next is renamed to the one that
the other makes next.
-/

namespace Rehearsal

variable {α : Type}


/-- Asking for a capability changes nothing in the world. -/
theorem Act.construct_inject (flow : String) (declared : List Capability) (r : RegistryId)
    (c : Capability) (next : Except Error MockId → Constructor α) (w : World) :
    construct flow declared r (.inject c next) w =
      construct flow declared r (next (inject flow declared r c w).1) w := by
  have asking : (inject flow declared r c w).2 = w := by rw [inject_apply]
  have first : construct flow declared r (.inject c next) w =
      construct flow declared r (next (inject flow declared r c w).1)
        (inject flow declared r c w).2 := rfl
  rw [first, asking]

/-- Two registries are the same up to the numbers of their mocks, one capability left aside. -/
structure Registry.Mirrors (d : Capability) (σ : Equiv.Perm MockId) (s s' : Registry) : Prop where
  participant : s'.participant = s.participant
  isSealed : s'.isSealed = s.isSealed
  mock? : ∀ c, c ≠ d → s'.mock? c = (s.mock? c).map σ

theorem Registry.Mirrors.contains {d c : Capability} {σ : Equiv.Perm MockId} {s s' : Registry}
    (h : s.Mirrors d σ s') (other : c ≠ d) : s'.contains c = s.contains c := by
  rw [Registry.contains, h.mock? c other, Option.isSome_map]
  rfl

/-- Two registries differ at most in one capability. -/
structure Registry.SameBut (d : Capability) (s s' : Registry) : Prop where
  participant : s'.participant = s.participant
  isSealed : s'.isSealed = s.isSealed
  mock? : ∀ c, c ≠ d → s'.mock? c = s.mock? c

theorem Registry.SameBut.refl (d : Capability) (s : Registry) : s.SameBut d s :=
  ⟨rfl, rfl, fun _ _ => rfl⟩

theorem Registry.SameBut.trans {d : Capability} {s s' s'' : Registry} (h : s.SameBut d s')
    (h' : s'.SameBut d s'') : s.SameBut d s'' :=
  ⟨h'.participant.trans h.participant, h'.isSealed.trans h.isSealed,
    fun c other => (h'.mock? c other).trans (h.mock? c other)⟩

section

variable {d : Capability} {σ : Equiv.Perm MockId} {s s' t : Registry}

theorem Registry.Mirrors.left (h : s.Mirrors d σ s') (same : s.SameBut d t) : t.Mirrors d σ s' where
  participant := h.participant.trans same.participant.symm
  isSealed := h.isSealed.trans same.isSealed.symm
  mock? c other := by rw [h.mock? c other, same.mock? c other]

theorem Registry.Mirrors.right (h : s.Mirrors d σ s') (same : s'.SameBut d t) :
    s.Mirrors d σ t where
  participant := same.participant.trans h.participant
  isSealed := same.isSealed.trans h.isSealed
  mock? c other := by rw [same.mock? c other, h.mock? c other]

end

theorem Registry.mock?_add_eq (s : Registry) (c e : Capability) (m : MockId) :
    (s.add c m).mock? e = (s.mock? e).or (if e = c then some m else none) := by
  rw [mock?, add, List.lookup_append, mock?, List.lookup_cons]
  by_cases same : e = c
  · simp [same]
  · have apart : (e == c) = false := by simpa using same
    simp [same, apart]

namespace World

variable {d c : Capability} {σ σ' σ'' : Equiv.Perm MockId} {w w' v v' : World} {r : RegistryId}
  {m : MockId}

/-- The mock of a registered capability, one capability left aside. -/
def Has (w : World) (d : Capability) (m : MockId) : Prop :=
  ∃ r c, c ≠ d ∧ (w.registry r).mock? c = some m

/-- Two worlds have the same registries up to the numbers of their mocks, one capability left
aside. -/
structure Mirrors (d : Capability) (σ : Equiv.Perm MockId) (w w' : World) : Prop where
  registry : ∀ r, (w.registry r).Mirrors d σ (w'.registry r)
  made : ∀ m, w.Has d m → m < w.mockCount ∧ σ m < w'.mockCount

/-- Another renaming gives the mocks of a world the same numbers. -/
def Extends (d : Capability) (w : World) (σ σ' : Equiv.Perm MockId) : Prop :=
  ∀ m, w.Has d m → σ' m = σ m

theorem Extends.refl (d : Capability) (w : World) (σ : Equiv.Perm MockId) : Extends d w σ σ :=
  fun _ _ => rfl

theorem Extends.trans (h : Extends d w σ σ') (more : ∀ m, w.Has d m → v.Has d m)
    (h' : Extends d v σ' σ'') : Extends d w σ σ'' :=
  fun m has => (h' m (more m has)).trans (h m has)

theorem Extends.map_mock? (h : Extends d w σ σ') (other : c ≠ d) :
    ((w.registry r).mock? c).map σ' = ((w.registry r).mock? c).map σ := by
  cases found : (w.registry r).mock? c with
  | none => rfl
  | some m => exact congrArg some (h m ⟨r, c, other, found⟩)

/-- A mock that one world makes next is renamed to the one that the other makes next. -/
def renameNext (σ : Equiv.Perm MockId) (m n : MockId) : Equiv.Perm MockId := σ.trans (.swap (σ m) n)

theorem Mirrors.extends_renameNext (h : Mirrors d σ w w') :
    Extends d w σ (renameNext σ w.mockCount w'.mockCount) := by
  intro m has
  obtain ⟨old, old'⟩ := h.made m has
  have apart : σ m ≠ σ w.mockCount := fun same => Nat.ne_of_lt old (σ.injective same)
  exact Equiv.swap_apply_of_ne_of_ne apart (Nat.ne_of_lt old')

theorem renameNext_self (σ : Equiv.Perm MockId) (m n : MockId) : renameNext σ m n m = n :=
  Equiv.swap_apply_left ..

/-- A world mirrors itself, as long as its registries have only mocks that were made. -/
theorem Owned.mirrors (h : w.Owned) (d : Capability) : Mirrors d (Equiv.refl MockId) w w := by
  refine ⟨fun r => ⟨rfl, rfl, fun c _ => ?_⟩, fun m ⟨r, c, _, found⟩ => ?_⟩
  · cases (w.registry r).mock? c <;> rfl
  · have made := (h.made r c m (Registry.mem_of_mock? found)).2
    exact ⟨made, made⟩

/-! ### Registering -/

/-- Registering adds at most one mock, and never takes one away. -/
theorem has_register (has : w.Has d m) : (Act.register r c w).2.Has d m := by
  obtain ⟨a, e, other, found⟩ := has
  refine ⟨a, e, other, ?_⟩
  by_cases here : a = r
  · subst here
    exact Act.mock?_register a c w |>.mpr (.inl found)
  · rwa [Act.registry_register_of_ne here]

theorem mockCount_le_register (r : RegistryId) (c : Capability) (w : World) :
    w.mockCount ≤ (Act.register r c w).2.mockCount := by
  rw [Act.register_apply]
  cases (w.registry r).mock? c with
  | some m => exact Nat.le_refl _
  | none =>
    cases (w.registry r).isSealed with
    | true => exact Nat.le_refl _
    | false => exact Nat.le_succ _

/-- Registering one capability is not seen by those who ask for others. -/
theorem sameBut_register (r a : RegistryId) (d : Capability) (w : World) :
    (w.registry a).SameBut d ((Act.register r d w).2.registry a) := by
  rcases Act.register_cases r d w with ⟨m, -, same⟩ | ⟨-, e, same⟩ | ⟨-, -, registry⟩
  · rw [same]
    exact .refl d _
  · rw [same]
    exact .refl d _
  · rw [registry]
    by_cases here : a = r
    · subst here
      rw [if_pos rfl]
      refine ⟨rfl, rfl, fun c other => ?_⟩
      rw [Registry.mock?_add_eq, if_neg other, Option.or_none]
    · rw [if_neg here]
      exact .refl d _

theorem has_register_self_iff : (Act.register r d w).2.Has d m ↔ w.Has d m := by
  constructor
  · rintro ⟨a, c, other, found⟩
    rw [(sameBut_register r a d w).mock? c other] at found
    exact ⟨a, c, other, found⟩
  · exact has_register

theorem Mirrors.register_left (h : Mirrors d σ w w') (r : RegistryId) :
    Mirrors d σ (Act.register r d w).2 w' where
  registry a := (h.registry a).left (sameBut_register r a d w)
  made m has := by
    obtain ⟨old, old'⟩ := h.made m (has_register_self_iff.mp has)
    exact ⟨Nat.lt_of_lt_of_le old (mockCount_le_register r d w), old'⟩

theorem Mirrors.register_right (h : Mirrors d σ w w') (r : RegistryId) :
    Mirrors d σ w (Act.register r d w').2 where
  registry a := (h.registry a).right (sameBut_register r a d w')
  made m has := by
    obtain ⟨old, old'⟩ := h.made m has
    exact ⟨old, Nat.lt_of_lt_of_le old' (mockCount_le_register r d w')⟩

/-- Two worlds that mirror each other have come to two others that do so, too, and the mocks that
were there have the numbers that they had. -/
structure Continues (d : Capability) (w : World) (σ : Equiv.Perm MockId) (v v' : World)
    (σ' : Equiv.Perm MockId) : Prop where
  agrees : Extends d w σ σ'
  keeps : ∀ m, w.Has d m → v.Has d m
  mirrors : Mirrors d σ' v v'

theorem Mirrors.continues (h : Mirrors d σ w w') : Continues d w σ w w' σ :=
  ⟨.refl d w σ, fun _ has => has, h⟩

theorem Continues.trans {u u' : World} (h : Continues d w σ v v' σ')
    (h' : Continues d v σ' u u' σ'') : Continues d w σ u u' σ'' :=
  ⟨h.agrees.trans h.keeps h'.agrees, fun m has => h'.keeps m (h.keeps m has), h'.mirrors⟩

/-- Both worlds make a mock. -/
theorem Mirrors.addService (h : Mirrors d σ w w') (lacks : (w.registry r).mock? c = none) :
    let σ' := renameNext σ w.mockCount w'.mockCount
    Mirrors d σ' (w.addService r c).2 (w'.addService r c).2 := by
  intro σ'
  have agrees := h.extends_renameNext
  have added : ∀ (u : World) a, (u.addService r c).2.registry a =
      if a = r then (u.registry r).add c u.mockCount else u.registry a :=
    fun u => registry_set rfl
  refine ⟨fun a => ?_, fun m => ?_⟩
  · rw [added, added]
    by_cases here : a = r
    · subst here
      rw [if_pos rfl, if_pos rfl]
      refine ⟨(h.registry a).participant, (h.registry a).isSealed, fun e apart => ?_⟩
      rw [Registry.mock?_add_eq, Registry.mock?_add_eq, (h.registry a).mock? e apart,
        ← agrees.map_mock? apart]
      by_cases same : e = c
      · rw [if_pos same, if_pos same, same, lacks]
        exact congrArg some (renameNext_self σ w.mockCount w'.mockCount).symm
      · rw [if_neg same, if_neg same, Option.or_none, Option.or_none]
    · rw [if_neg here, if_neg here]
      refine ⟨(h.registry a).participant, (h.registry a).isSealed, fun e apart => ?_⟩
      rw [agrees.map_mock? apart]
      exact (h.registry a).mock? e apart
  · rintro ⟨a, e, apart, found⟩
    have there : (w.registry a).mock? e = some m ∨ m = w.mockCount := by
      rw [added] at found
      by_cases here : a = r
      · subst here
        rw [if_pos rfl, Registry.mock?_add lacks] at found
        exact found.imp_right fun new => new.2.symm
      · rw [if_neg here] at found
        exact .inl found
    rcases there with old | rfl
    · have has : w.Has d m := ⟨a, e, apart, old⟩
      obtain ⟨before, before'⟩ := h.made m has
      rw [agrees m has]
      exact ⟨Nat.lt_succ_of_lt before, Nat.lt_succ_of_lt before'⟩
    · rw [show σ' w.mockCount = w'.mockCount from renameNext_self ..]
      exact ⟨Nat.lt_succ_self _, Nat.lt_succ_self _⟩

/-- Registering another capability is answered the same in both. -/
theorem Mirrors.register (h : Mirrors d σ w w') (other : c ≠ d) (r : RegistryId) :
    ∃ σ', Continues d w σ (Act.register r c w).2 (Act.register r c w').2 σ' ∧
      (Act.register r c w').1 = (Act.register r c w).1.map σ' ∧
      ∀ m, (Act.register r c w).1 = .ok m → (Act.register r c w).2.Has d m := by
  have keeps : ∀ m, w.Has d m → (Act.register r c w).2.Has d m := fun m => has_register
  have handed : ∀ m, (Act.register r c w).1 = .ok m → (Act.register r c w).2.Has d m :=
    fun m given => ⟨r, c, other, (Act.mock?_register r c w).mpr (.inr ⟨rfl, given⟩)⟩
  have mock? := (h.registry r).mock? c other
  revert keeps handed
  rw [Act.register_apply, Act.register_apply, mock?, (h.registry r).isSealed,
    (h.registry r).participant]
  intro keeps handed
  cases found : (w.registry r).mock? c with
  | some m =>
    rw [found] at handed
    exact ⟨σ, h.continues, rfl, handed⟩
  | none =>
    rw [found] at keeps handed
    cases isSealed : (w.registry r).isSealed with
    | true => exact ⟨σ, h.continues, rfl, fun m given => by cases given⟩
    | false =>
      rw [isSealed] at keeps handed
      exact ⟨_, ⟨h.extends_renameNext, keeps, h.addService found⟩,
        congrArg Except.ok (renameNext_self ..).symm, handed⟩

/-- Asking for a capability is answered the same in both, unless it is declared and is the one that
is left aside. -/
theorem Mirrors.inject (h : Mirrors d σ w w') (flow : String) {declared : List Capability}
    (undeclared : d ∉ declared) (r : RegistryId) (c : Capability) :
    (Act.inject flow declared r c w').1 = (Act.inject flow declared r c w).1.map σ ∧
      ∀ m, (Act.inject flow declared r c w).1 = .ok m → w.Has d m := by
  rw [Act.inject_apply, Act.inject_apply]
  by_cases isDeclared : c ∈ declared
  · have other : c ≠ d := fun same => undeclared (same ▸ isDeclared)
    rw [if_pos (by simpa using isDeclared), (h.registry r).mock? c other,
      (h.registry r).participant, if_pos (by simpa using isDeclared)]
    cases found : (w.registry r).mock? c with
    | none => exact ⟨rfl, fun m given => by cases given⟩
    | some n =>
      refine ⟨rfl, fun m given => ?_⟩
      cases given
      exact ⟨r, c, other, found⟩
  · rw [if_neg (by simpa using isDeclared), if_neg (by simpa using isDeclared)]
    exact ⟨rfl, fun m given => by cases given⟩

theorem Extends.map_answer (agrees : Extends d w σ σ') {answer : Except Error MockId}
    (handed : ∀ m, answer = .ok m → w.Has d m) : answer.map σ' = answer.map σ := by
  cases answer with
  | error e => rfl
  | ok m => exact congrArg Except.ok (agrees m (handed m rfl))

open Constructor (Renamed Holds)

/-- **Constructors keep worlds mirrored.** In two worlds that mirror each other, a constructor that
neither declares nor registers what is left aside comes to the same, up to a renaming. -/
theorem Mirrors.construct {flow : Blueprint α} {holds : α → List MockId}
    {first first' : Constructor α} (h : Mirrors d σ w w') (undeclared : d ∉ flow.dependencies)
    (same : ∀ σ', Extends d w σ σ' → first.Renamed σ' (Holds holds σ') first')
    (others : ∀ deeds last v, flow.Leads r first w deeds last v →
      ∀ answer, .registered d answer ∉ deeds) :
    ∃ σ', Continues d w σ (Act.construct flow.name flow.dependencies r first w).2
        (Act.construct flow.name flow.dependencies r first' w').2 σ' ∧
      ∀ σ'', Extends d (Act.construct flow.name flow.dependencies r first w).2 σ' σ'' →
        (Act.construct flow.name flow.dependencies r first' w').1.map holds =
          (Act.construct flow.name flow.dependencies r first w).1.map
            fun a => (holds a).map σ'' := by
  -- The renaming grows as mocks are made, so the two constructors have to agree under all that may
  -- yet come of it.
  induction first generalizing first' w w' σ with
  | built a =>
    obtain ⟨b, rfl⟩ : ∃ b, first' = .built b := by
      cases same σ (.refl d w σ)
      exact ⟨_, rfl⟩
    refine ⟨σ, h.continues, fun σ' agrees => ?_⟩
    obtain ⟨related⟩ := same σ' agrees
    exact congrArg Except.ok related
  | failed e =>
    cases same σ (.refl d w σ)
    exact ⟨σ, h.continues, fun _ _ => rfl⟩
  | register c next ih =>
    obtain ⟨next', rfl⟩ : ∃ next', first' = .register c next' := by
      cases same σ (.refl d w σ)
      exact ⟨_, rfl⟩
    have other : c ≠ d := by
      rintro rfl
      exact others _ _ _ (.registers .here) _ (List.mem_cons_self ..)
    obtain ⟨σ', continues, answer, handed⟩ := h.register other r
    have later : ∀ σ'', Extends d (Act.register r c w).2 σ' σ'' →
        (next (Act.register r c w).1).Renamed σ'' (Holds holds σ'')
          (next' (Act.register r c w').1) := by
      intro σ'' agrees
      cases same σ'' (continues.agrees.trans continues.keeps agrees) with
      | register each =>
        rw [answer, ← agrees.map_answer handed]
        exact each _
    obtain ⟨σ'', onward, result⟩ := ih _ continues.mirrors later fun deeds last v leads given mem =>
      others _ _ _ (.registers leads) given (List.mem_cons_of_mem _ mem)
    exact ⟨σ'', continues.trans onward, result⟩
  | inject c next ih =>
    obtain ⟨next', rfl⟩ : ∃ next', first' = .inject c next' := by
      cases same σ (.refl d w σ)
      exact ⟨_, rfl⟩
    obtain ⟨answer, handed⟩ := h.inject flow.name undeclared r c
    have later : ∀ σ', Extends d w σ σ' →
        (next (Act.inject flow.name flow.dependencies r c w).1).Renamed σ' (Holds holds σ')
          (next' (Act.inject flow.name flow.dependencies r c w').1) := by
      intro σ' agrees
      cases same σ' agrees with
      | inject each =>
        rw [answer, ← agrees.map_answer handed]
        exact each _
    have onward := ih _ h later fun deeds last v leads given mem =>
      others _ _ _ (.asks leads) given (List.mem_cons_of_mem _ mem)
    rw [Act.construct_inject, Act.construct_inject]
    exact onward

theorem registry_seal_note (w : World) (r a : RegistryId) (e : Event) :
    ((w.sealRegistry r).note e).registry a =
      if a = r then { w.registry r with isSealed := true } else w.registry a :=
  w.registry_sealRegistry r a

theorem mock?_seal_note (w : World) (r a : RegistryId) (e : Event) (c : Capability) :
    (((w.sealRegistry r).note e).registry a).mock? c = (w.registry a).mock? c := by
  rw [registry_seal_note]
  by_cases here : a = r
  · rw [if_pos here, here]
    rfl
  · rw [if_neg here]

theorem mockCount_seal_note (w : World) (r : RegistryId) (e : Event) :
    ((w.sealRegistry r).note e).mockCount = w.mockCount := by
  show (w.sealRegistry r).mockCount = w.mockCount
  unfold World.sealRegistry
  dsimp only
  split <;> rfl

theorem has_seal_note_iff {e : Event} : ((w.sealRegistry r).note e).Has d m ↔ w.Has d m := by
  simp only [Has, mock?_seal_note]

theorem Mirrors.seal_note (h : Mirrors d σ w w') (r : RegistryId) (e e' : Event) :
    Mirrors d σ ((w.sealRegistry r).note e) ((w'.sealRegistry r).note e') := by
  refine ⟨fun a => ?_, fun m has => ?_⟩
  · rw [registry_seal_note, registry_seal_note]
    by_cases here : a = r
    · rw [if_pos here, if_pos here]
      exact ⟨(h.registry r).participant, rfl, (h.registry r).mock?⟩
    · rw [if_neg here, if_neg here]
      exact h.registry a
  · rw [mockCount_seal_note, mockCount_seal_note]
    exact h.made m (has_seal_note_iff.mp has)

theorem Continues.seal_note (h : Continues d w σ v v' σ') (r : RegistryId) (e e' : Event) :
    Continues d w σ ((v.sealRegistry r).note e) ((v'.sealRegistry r).note e') σ' :=
  ⟨h.agrees, fun m has => has_seal_note_iff.mpr (h.keeps m has), h.mirrors.seal_note r e e'⟩

theorem Mirrors.isSatisfied_iff (h : Mirrors d σ w w') {flow : Blueprint α}
    (undeclared : d ∉ flow.dependencies) (r : RegistryId) :
    flow.IsSatisfied (w'.registry r) ↔ flow.IsSatisfied (w.registry r) :=
  forall₂_congr fun c declared => by
    rw [(h.registry r).contains fun same => undeclared (same ▸ declared)]

/-- **Building a flow** that has nothing to do with what is left aside comes to the same in two
worlds that mirror each other, up to a renaming. -/
theorem Mirrors.createFlow {flow : Blueprint α} {holds : α → List MockId} (h : Mirrors d σ w w')
    (undeclared : d ∉ flow.dependencies) (impartial : flow.constructor.Impartial holds)
    (others : flow.IsSatisfied (w.registry r) → ∀ deeds last v,
      flow.Leads r flow.constructor w deeds last v → ∀ answer, .registered d answer ∉ deeds) :
    ∃ σ', Continues d w σ (Act.createFlow r flow w).2 (Act.createFlow r flow w').2 σ' ∧
      ∀ σ'', Extends d (Act.createFlow r flow w).2 σ' σ'' →
        (Act.createFlow r flow w').1.map holds =
          (Act.createFlow r flow w).1.map fun a => (holds a).map σ'' := by
  by_cases satisfied : flow.IsSatisfied (w.registry r)
  · have satisfied' := (h.isSatisfied_iff undeclared r).mpr satisfied
    obtain ⟨σ', continues, answer⟩ := h.construct undeclared (fun σ' _ => impartial σ')
      (others satisfied)
    rw [Act.createFlow_of_isSatisfied satisfied, Act.createFlow_of_isSatisfied satisfied',
      (h.registry r).participant]
    revert continues answer
    rcases Act.construct flow.name flow.dependencies r flow.constructor w with ⟨e | built, v⟩ <;>
      rcases Act.construct flow.name flow.dependencies r flow.constructor w' with ⟨e' | built', v'⟩
    · exact fun continues answer => ⟨σ', continues, answer⟩
    · exact fun _ answer => by cases answer σ' (.refl d v σ')
    · exact fun _ answer => by cases answer σ' (.refl d v σ')
    · exact fun continues answer => ⟨σ', continues.seal_note r _ _, fun σ'' agrees =>
        answer σ'' fun m has => agrees m (has_seal_note_iff.mpr has)⟩
  · -- What is missing first in one world is missing first in the other.
    have first : (flow.dependencies.find? fun c => !(w'.registry r).contains c) =
        flow.dependencies.find? fun c => !(w.registry r).contains c :=
      List.find?_congr fun c declared => by
        rw [(h.registry r).contains fun same => undeclared (same ▸ declared)]
    rw [Act.createFlow_apply, Act.createFlow_apply, first, (h.registry r).participant]
    cases missing : flow.dependencies.find? fun c => !(w.registry r).contains c with
    | some c => exact ⟨σ, h.continues, fun _ _ => rfl⟩
    | none => exact absurd (by simpa [Blueprint.IsSatisfied] using missing) satisfied

end World

end Rehearsal
