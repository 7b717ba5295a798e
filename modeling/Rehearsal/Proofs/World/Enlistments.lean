import Rehearsal.Proofs.World.Changes

/-!
# What can change in the registries

Of all changes to the world only three concern registries: one is built, one gets a mock that it
lacked, or one is sealed. So every mock belongs to one registry and one capability for good.
-/

namespace Rehearsal

namespace Registry

variable {r : Registry} {c : Capability} {m : MockId}

theorem mem_of_mock? (h : r.mock? c = some m) : (c, m) ∈ r.services := mem_of_lookup h

theorem mock?_add_of_some {d : Capability} {n : MockId} (h : r.mock? c = some m) :
    (r.add d n).mock? c = some m := by
  rw [mock?] at h
  rw [mock?, add, List.lookup_append, h]
  rfl

theorem mock?_add_self (h : r.mock? c = none) : (r.add c m).mock? c = some m := by
  rw [mock?] at h
  rw [mock?, add, List.lookup_append, h]
  exact List.lookup_cons_self

theorem contains_iff : r.contains c ↔ c ∈ r.services.map Prod.fst := isSome_lookup_iff

end Registry

namespace World

variable {w w' : World} {r : RegistryId}

@[simp] theorem registries_lookFor (w : World) (me : Waiter) (s : Session) :
    (w.lookFor me s).2.registries = w.registries := by
  unfold lookFor
  dsimp only
  split <;> rfl

@[simp] theorem mockCount_lookFor (w : World) (me : Waiter) (s : Session) :
    (w.lookFor me s).2.mockCount = w.mockCount := by
  unfold lookFor
  dsimp only
  split <;> rfl

/-- What a change does to the registries. -/
inductive Enlists (w w' : World) : Prop where
  | nothing (registries : w'.registries = w.registries)
      (registryCount : w'.registryCount = w.registryCount) (mockCount : w'.mockCount = w.mockCount)
  | built (participant : String) (capabilities : List Capability)
      (act : Act.buildRegistry participant capabilities w = (.ok w.registryCount, w'))
      (registries : w'.registries = w.registries.set w.registryCount
        { participant, services := (w.freshServices capabilities).1 })
      (registryCount : w'.registryCount = w.registryCount + 1)
      (mockCount : w'.mockCount = w.mockCount + capabilities.eraseDups.length)
  | registered (r : RegistryId) (c : Capability) (known : r < w.registryCount)
      (lacks : (w.registry r).mock? c = none) (act : Act.register r c w = (.ok w.mockCount, w'))
      (registries : w'.registries = w.registries.set r ((w.registry r).add c w.mockCount))
      (registryCount : w'.registryCount = w.registryCount)
      (mockCount : w'.mockCount = w.mockCount + 1)
  | closed (r : RegistryId) (known : r < w.registryCount)
      (registries : w'.registries = w.registries.set r { w.registry r with isSealed := true })
      (registryCount : w'.registryCount = w.registryCount) (mockCount : w'.mockCount = w.mockCount)

/-- Nothing else ever happens to the registries. -/
theorem Change.enlists (h : w.Change w') : w.Enlists w' := by
  cases h with
  | built participant capabilities =>
    rw [addRegistry_freshServices]
    exact .built participant capabilities (Act.buildRegistry_apply _ _ _) rfl rfl rfl
  | @registered r c known lacks isOpen =>
    refine .registered r c known lacks ?_ rfl rfl rfl
    rw [Act.register_apply, lacks, isOpen]
    rfl
  | @closed r known =>
    unfold sealRegistry
    dsimp only
    cases isSealed : (w.registry r).isSealed with
    | true => exact .nothing rfl rfl rfl
    | false => exact .closed r known rfl rfl rfl
  | attached m s =>
    unfold attach
    dsimp only
    cases (w.messagings.get m).session? s.counterparty <;> exact .nothing rfl rfl rfl
  | looked => exact .nothing (by simp) (by simp) (by simp)
  | _ => exact .nothing rfl rfl rfl

/-! ## Owners -/

/-- Every mock was made, and belongs to one registry and one capability. -/
structure Owned (w : World) : Prop where
  made : ∀ (r : Nat) (c : Capability) (m : Nat), (c, m) ∈ (w.registry r).services →
    r < w.registryCount ∧ m < w.mockCount
  distinct : ∀ r, ((w.registry r).services.map Prod.fst).Nodup
  owner : ∀ r r' c c' m, (c, m) ∈ (w.registry r).services → (c', m) ∈ (w.registry r').services →
    r = r' ∧ c = c'

theorem Owned.empty : ({} : World).Owned where
  made r c m h := by cases h
  distinct r := List.nodup_nil
  owner r r' c c' m h := by cases h

/-- One registry changed. -/
theorem registry_set {registries : Store RegistryId Registry} {r : RegistryId} {new : Registry}
    (h : w'.registries = registries.set r new) (r' : RegistryId) :
    w'.registry r' = if r' = r then new else registries.get r' := by
  rw [registry, h]
  by_cases same : r' = r
  · rw [if_pos same, same, Store.get_set_self]
  · rw [if_neg same, Store.get_set_of_ne _ _ same]

/-- A capability that is registered for the first time gets a new mock. -/
theorem mock?_addService {r : RegistryId} {c : Capability}
    (lacks : (w.registry r).mock? c = none) :
    ((w.addService r c).2.registry r).mock? c = some (w.addService r c).1 := by
  have registries : (w.addService r c).2.registries =
      w.registries.set r ((w.registry r).add c w.mockCount) := rfl
  rw [registry_set registries, if_pos rfl]
  exact Registry.mock?_add_self lacks

/-- What the registries hold is all that counts. -/
theorem Owned.of_same (h : w.Owned)
    (same : ∀ r, (w'.registry r).services = (w.registry r).services)
    (registryCount : w'.registryCount = w.registryCount) (mockCount : w'.mockCount = w.mockCount) :
    w'.Owned := by
  refine ⟨fun r c m there => ?_, fun r => ?_, fun r r' c c' m there there' => ?_⟩
  · rw [registryCount, mockCount]
    exact h.made r c m (same r ▸ there)
  · rw [same r]
    exact h.distinct r
  · exact h.owner r r' c c' m (same r ▸ there) (same r' ▸ there')

/-- A registry that is built is the only one with its mocks, which are all new. -/
theorem Owned.built (h : w.Owned) {participant : String} {capabilities : List Capability}
    (registries : w'.registries = w.registries.set w.registryCount
      { participant, services := (w.freshServices capabilities).1 })
    (registryCount : w'.registryCount = w.registryCount + 1)
    (mockCount : w'.mockCount = w.mockCount + capabilities.eraseDups.length) : w'.Owned := by
  have at' := registry_set registries
  -- A service is one of the new registry, with a new mock, or one that there was.
  have services : ∀ r c m, (c, m) ∈ (w'.registry r).services →
      (r = w.registryCount ∧ (c, m) ∈ (w.freshServices capabilities).1) ∨
        (r ≠ w.registryCount ∧ (c, m) ∈ (w.registry r).services) := by
    intro r c m there
    rw [at'] at there
    by_cases new : r = w.registryCount
    · rw [if_pos new] at there
      exact .inl ⟨new, there⟩
    · rw [if_neg new] at there
      exact .inr ⟨new, there⟩
  refine ⟨fun r c m there => ?_, fun r => ?_, fun r r' c c' m there there' => ?_⟩
  · rcases services r c m there with ⟨rfl, fresh⟩ | ⟨-, old⟩
    · obtain ⟨-, -, most⟩ := mem_freshServices fresh
      omega
    · obtain ⟨known, made⟩ := h.made r c m old
      omega
  · rw [at']
    by_cases new : r = w.registryCount
    · rw [if_pos new]
      show ((w.freshServices capabilities).1.map Prod.fst).Nodup
      rw [fst_freshServices]
      exact nodup_eraseDups _
    · rw [if_neg new]
      exact h.distinct r
  · rcases services r c m there with ⟨rfl, fresh⟩ | ⟨-, old⟩
    · rcases services r' c' m there' with ⟨rfl, fresh'⟩ | ⟨-, old'⟩
      · have once : ((w.freshServices capabilities).1.map Prod.snd).Nodup := by
          rw [snd_freshServices]
          exact List.nodup_range'
        have same := List.inj_on_of_nodup_map once fresh fresh' rfl
        exact ⟨rfl, congrArg Prod.fst same⟩
      · have new := (mem_freshServices fresh).2.1
        have made := (h.made r' c' m old').2
        omega
    · rcases services r' c' m there' with ⟨rfl, fresh'⟩ | ⟨-, old'⟩
      · have new := (mem_freshServices fresh').2.1
        have made := (h.made r c m old).2
        omega
      · exact h.owner r r' c c' m old old'

/-- A registry gets a new mock of a capability that it lacked. -/
theorem Owned.registered (h : w.Owned) {r₀ : RegistryId} {c₀ : Capability}
    (known : r₀ < w.registryCount) (lacks : (w.registry r₀).mock? c₀ = none)
    (registries : w'.registries = w.registries.set r₀ ((w.registry r₀).add c₀ w.mockCount))
    (registryCount : w'.registryCount = w.registryCount)
    (mockCount : w'.mockCount = w.mockCount + 1) : w'.Owned := by
  have at' := registry_set registries
  -- A service is the new one, or one that there was.
  have services : ∀ r c m, (c, m) ∈ (w'.registry r).services →
      (r = r₀ ∧ c = c₀ ∧ m = w.mockCount) ∨ (c, m) ∈ (w.registry r).services := by
    intro r c m there
    rw [at'] at there
    by_cases here : r = r₀
    · rw [if_pos here] at there
      rcases List.mem_append.mp there with old | new
      · exact .inr (here ▸ old)
      · cases List.mem_singleton.mp new
        exact .inl ⟨here, rfl, rfl⟩
    · rw [if_neg here] at there
      exact .inr there
  refine ⟨fun r c m there => ?_, fun r => ?_, fun r r' c c' m there there' => ?_⟩
  · rcases services r c m there with ⟨rfl, rfl, rfl⟩ | old
    · exact ⟨registryCount.symm ▸ known, mockCount.symm ▸ Nat.lt_succ_self _⟩
    · obtain ⟨known, made⟩ := h.made r c m old
      omega
  · rw [at']
    by_cases here : r = r₀
    · rw [if_pos here]
      show (((w.registry r₀).services ++ [(c₀, w.mockCount)]).map Prod.fst).Nodup
      rw [List.map_append, List.nodup_append]
      refine ⟨h.distinct r₀, List.nodup_singleton _, fun c there d new => ?_⟩
      cases List.mem_singleton.mp new
      rintro rfl
      -- It was looked up in vain before.
      obtain ⟨⟨c, m⟩, old, rfl⟩ := List.mem_map.mp there
      rw [Registry.mock?, lookup_of_mem (h.distinct r₀) old] at lacks
      cases lacks
    · rw [if_neg here]
      exact h.distinct r
  · rcases services r c m there with ⟨rfl, rfl, rfl⟩ | old
    · rcases services r' c' _ there' with ⟨rfl, rfl, -⟩ | old'
      · exact ⟨rfl, rfl⟩
      · exact absurd (h.made r' c' _ old').2 (Nat.lt_irrefl _)
    · rcases services r' c' m there' with ⟨rfl, rfl, rfl⟩ | old'
      · exact absurd (h.made r c _ old).2 (Nat.lt_irrefl _)
      · exact h.owner r r' c c' m old old'

/-- Mocks stay with their owners, whatever changes. -/
theorem Owned.enlists (h : w.Owned) (enlists : w.Enlists w') : w'.Owned := by
  cases enlists with
  | nothing registries registryCount mockCount =>
    refine h.of_same (fun r => ?_) registryCount mockCount
    rw [registry, registries, ← registry]
  | built participant capabilities _ registries registryCount mockCount =>
    exact h.built registries registryCount mockCount
  | registered r₀ c₀ known lacks _ registries registryCount mockCount =>
    exact h.registered known lacks registries registryCount mockCount
  | closed r₀ known registries registryCount mockCount =>
    refine h.of_same (fun r => ?_) registryCount mockCount
    rw [registry_set registries]
    split
    · next here => rw [here]
    · rfl

/-! ## What stays -/

/-- Who a registry belongs to does not change, and no mock is taken out or replaced. -/
structure Retains (w w' : World) : Prop where
  known : w.registryCount ≤ w'.registryCount
  participant : ∀ r < w.registryCount, (w'.registry r).participant = (w.registry r).participant
  mocks : ∀ r c m, (w.registry r).mock? c = some m → (w'.registry r).mock? c = some m

theorem Retains.refl (w : World) : w.Retains w :=
  ⟨Nat.le_refl _, fun _ _ => rfl, fun _ _ _ h => h⟩

theorem Retains.trans {w'' : World} (h : w.Retains w') (h' : w'.Retains w'') : w.Retains w'' where
  known := Nat.le_trans h.known h'.known
  participant r hr :=
    (h'.participant r (Nat.lt_of_lt_of_le hr h.known)).trans (h.participant r hr)
  mocks r c m hm := h'.mocks r c m (h.mocks r c m hm)

theorem Enlists.retains (enlists : w.Enlists w') (h : w.Owned) : w.Retains w' := by
  cases enlists with
  | nothing registries registryCount =>
    have same : ∀ r, w'.registry r = w.registry r := fun r => by rw [registry, registries, registry]
    exact ⟨Nat.le_of_eq registryCount.symm, fun r _ => by rw [same],
      fun r c m found => by rwa [same]⟩
  | built participant capabilities _ registries registryCount =>
    refine ⟨by omega, fun r known => ?_, fun r c m found => ?_⟩
    · rw [registry_set registries, if_neg (Nat.ne_of_lt known)]
      rfl
    · have known := (h.made r c m (Registry.mem_of_mock? found)).1
      rw [registry_set registries, if_neg (Nat.ne_of_lt known)]
      exact found
  | registered r₀ c₀ known lacks _ registries registryCount =>
    refine ⟨Nat.le_of_eq registryCount.symm, fun r _ => ?_, fun r c m found => ?_⟩
    · rw [registry_set registries]
      split
      · next here => rw [here]; rfl
      · rfl
    · rw [registry_set registries]
      split
      · next here =>
        subst here
        exact Registry.mock?_add_of_some found
      · exact found
  | closed r₀ known registries registryCount =>
    refine ⟨Nat.le_of_eq registryCount.symm, fun r _ => ?_, fun r c m found => ?_⟩
    · rw [registry_set registries]
      split
      · next here => rw [here]
      · rfl
    · rw [registry_set registries]
      split
      · next here =>
        subst here
        exact found
      · exact found

/-- **Whatever is done to the world**, mocks keep their owners and owners keep their mocks. -/
theorem Changes.retains (changes : w.Changes w') (h : w.Owned) : w'.Owned ∧ w.Retains w' := by
  induction changes with
  | refl => exact ⟨h, .refl w⟩
  | tail _ change ih =>
    have enlists := change.enlists
    exact ⟨ih.1.enlists enlists, ih.2.trans (enlists.retains ih.1)⟩

end World

end Rehearsal
