import Rehearsal.Proofs.Flow.Constructions

/-!
# Instantiation

Building a flow can fail at two points: a dependency is missing, and then nothing was done, or the
constructor fails, and then what it registered before stays. Only a flow that was built closes its
registry. The check for missing dependencies is made once, but it holds for as long as the
constructor runs, since nothing leaves a registry: the injector never lacks what was declared, and
hands out nothing else.
-/

namespace Rehearsal

variable {α : Type}

/-- A registry has all that a flow declares. -/
def Blueprint.IsSatisfied (flow : Blueprint α) (s : Registry) : Prop :=
  ∀ c ∈ flow.dependencies, s.contains c = true

instance (flow : Blueprint α) (s : Registry) : Decidable (flow.IsSatisfied s) :=
  inferInstanceAs (Decidable (∀ c ∈ flow.dependencies, s.contains c = true))

theorem World.registry_sealRegistry (w : World) (r a : RegistryId) :
    (w.sealRegistry r).registry a =
      if a = r then { w.registry r with isSealed := true } else w.registry a := by
  unfold sealRegistry
  dsimp only
  split
  · next closed =>
    have same : { w.registry r with isSealed := true } = w.registry r := by rw [← closed]
    rw [same]
    split
    · next here => rw [here]
    · rfl
  · exact registry_set rfl a

/-! ## The outcomes -/

namespace Act

variable {r a : RegistryId} {flow : Blueprint α} {w w' : World} {deeds : List Deed}
  {c : Capability}

/-- A missing dependency is reported, and nothing is done. -/
theorem createFlow_of_missing (flow : Blueprint α) {before after : List Capability}
    {missing : Capability}
    (declared : flow.dependencies = before ++ missing :: after)
    (others : ∀ c ∈ before, (w.registry r).contains c = true)
    (lacks : (w.registry r).contains missing = false) : createFlow r flow w =
      (.error (.unsatisfiedDependency flow.name (w.registry r).participant missing.name), w) := by
  have first : (flow.dependencies.find? fun c => !(w.registry r).contains c) = some missing := by
    rw [List.find?_eq_some_iff_append]
    exact ⟨by simp [lacks], before, after, declared, by simpa using others⟩
  rw [createFlow_apply, first]

/-- With nothing missing, the constructor decides. -/
theorem createFlow_of_isSatisfied (satisfied : flow.IsSatisfied (w.registry r)) :
    createFlow r flow w =
      match construct flow.name flow.dependencies r flow.constructor w with
      | (.ok built, w') => (.ok built, (w'.sealRegistry r).note
          (.flowInstantiated flow.name (w.registry r).participant flow.dependencies.length))
      | (.error e, w') => (.error e, w') := by
  have complete : (flow.dependencies.find? fun c => !(w.registry r).contains c) = none := by
    rw [List.find?_eq_none]
    intro c declared
    simp [satisfied c declared]
  have created := createFlow_apply r flow w
  rw [complete] at created
  exact created

/-- The answer is that of the constructor, and a flow that was built closes its registry. -/
theorem createFlow_of_leads {answer : Except Error α} (satisfied : flow.IsSatisfied (w.registry r))
    (leads : flow.Leads r flow.constructor w deeds (.ofExcept answer) w') : createFlow r flow w =
      (answer, if answer.isOk then (w'.sealRegistry r).note
        (.flowInstantiated flow.name (w.registry r).participant flow.dependencies.length)
      else w') := by
  rw [createFlow_of_isSatisfied satisfied, leads.construct_eq]
  cases answer <;> rfl

theorem registry_createFlow {answer : Except Error α} (satisfied : flow.IsSatisfied (w.registry r))
    (leads : flow.Leads r flow.constructor w deeds (.ofExcept answer) w') (a : RegistryId) :
    (createFlow r flow w).2.registry a =
      if a = r ∧ answer.isOk then { w'.registry r with isSealed := true } else w'.registry a := by
  rw [createFlow_of_leads satisfied leads]
  cases answer with
  | error e => simp [Except.isOk, Except.toBool]
  | ok built =>
    simp only [Except.isOk, Except.toBool, if_true, and_true]
    exact w'.registry_sealRegistry r a

/-- **What building a flow comes to** and what it leaves. If a dependency is missing, the first one
is reported, whatever the constructor would have done, and nothing changes. If none is missing, the
answer is that of the constructor. The registry is then sealed if a flow was built, and otherwise
its seal is as it was; it has the mocks that it had and those that the constructor registered, and
the other registries are the same. -/
theorem instantiation (r : RegistryId) (flow : Blueprint α) (w : World) :
    ((∃ c ∈ flow.dependencies, (w.registry r).contains c = false) →
      ∃ before missing after, flow.dependencies = before ++ missing :: after ∧
        (∀ c ∈ before, (w.registry r).contains c = true) ∧
        (w.registry r).contains missing = false ∧
        ∀ other : Constructor α, createFlow r { flow with constructor := other } w =
          (.error (.unsatisfiedDependency flow.name (w.registry r).participant missing.name),
            w)) ∧
    (flow.IsSatisfied (w.registry r) →
      (∀ answer, (createFlow r flow w).1 = answer ↔
        ∃ deeds w', flow.Leads r flow.constructor w deeds (.ofExcept answer) w') ∧
      (∀ deeds answer w', flow.Leads r flow.constructor w deeds (.ofExcept answer) w' →
        ((createFlow r flow w).2.registry r).isSealed =
          (answer.isOk || (w.registry r).isSealed) ∧
        (∀ c m, ((createFlow r flow w).2.registry r).mock? c = some m ↔
          (w.registry r).mock? c = some m ∨ .registered c (.ok m) ∈ deeds) ∧
        ∀ a, a ≠ r → (createFlow r flow w).2.registry a = w.registry a)) := by
  refine ⟨?_, fun satisfied => ⟨fun answer => ⟨?_, ?_⟩, ?_⟩⟩
  · rintro ⟨c, declared, lacks⟩
    cases first : flow.dependencies.find? fun c => !(w.registry r).contains c with
    | none =>
      rw [List.find?_eq_none] at first
      simpa [lacks] using first c declared
    | some missing =>
      obtain ⟨absent, before, after, split, others⟩ := List.find?_eq_some_iff_append.mp first
      have here : ∀ c ∈ before, (w.registry r).contains c = true := by simpa using others
      have lacks : (w.registry r).contains missing = false := by simpa using absent
      exact ⟨before, missing, after, split, here, lacks, fun other =>
        createFlow_of_missing { flow with constructor := other } split here lacks⟩
  · rintro rfl
    obtain ⟨deeds, answer, w', leads⟩ := flow.exists_leads r flow.constructor w
    have same : (createFlow r flow w).1 = answer := by rw [createFlow_of_leads satisfied leads]
    exact ⟨deeds, w', same ▸ leads⟩
  · rintro ⟨deeds, w', leads⟩
    rw [createFlow_of_leads satisfied leads]
  · intro deeds answer w' leads
    have registry := registry_createFlow satisfied leads
    refine ⟨?_, fun c m => ?_, fun a apart => ?_⟩
    · rw [registry]
      cases answer.isOk with
      | true => simp
      | false => simpa using leads.spares.isSealed
    · rw [registry, ← leads.mock?_iff]
      cases answer.isOk with
      | true => simp [Registry.mock?]
      | false => simp
    · rw [registry, if_neg (fun both => apart both.1)]
      exact leads.registry_of_ne apart

/-- A flow whose constructor registers a capability and then fails. -/
def failsHalfway : Blueprint Unit :=
  ⟨"F", [.engine, .engine], .register .messaging fun _ => .inject .messaging fun _ =>
    .failed (.flowFailed "no")⟩

theorem instantiation_halfway :
    let w : World := (buildRegistry "Alice" [.engine] {}).2
    createFlow 0 { failsHalfway with dependencies := [.engine, .persistence, .messaging] } w =
      (.error (.unsatisfiedDependency "F" "Alice" "Persistence"), w) ∧
    (createFlow 0 failsHalfway w).1 = .error (.flowFailed "no") ∧
    ((createFlow 0 failsHalfway w).2.registry 0).isSealed = false ∧
    ((createFlow 0 failsHalfway w).2.registry 0).mock? .messaging = some 1 := by
  intro w
  have satisfied : failsHalfway.IsSatisfied (w.registry 0) := by decide
  have leads : failsHalfway.Leads 0 failsHalfway.constructor w
      [.registered .messaging (.ok 1),
        .asked .messaging (.error (.undeclaredDependency "F" "FlowMessaging"))]
      (.ofExcept (.error (.flowFailed "no"))) (register 0 .messaging w).2 :=
    .registers (.asks .here)
  obtain ⟨answers, leaves⟩ := (instantiation 0 failsHalfway w).2 satisfied
  obtain ⟨isSealed, mocks, -⟩ := leaves _ _ _ leads
  refine ⟨?_, (answers _).mpr ⟨_, _, leads⟩, isSealed, (mocks .messaging 1).mpr (.inr (by simp))⟩
  obtain ⟨before, missing, after, split, here, lacks, refused⟩ := (instantiation 0
    { failsHalfway with dependencies := [.engine, .persistence, .messaging] } w).1
      ⟨.persistence, by decide, by decide⟩
  have first : missing = .persistence := by
    rcases before with - | ⟨c, - | ⟨d, before⟩⟩
    · cases split
      cases lacks
    · cases split
      rfl
    · obtain ⟨-, rfl, -⟩ : Capability.engine = c ∧ Capability.persistence = d ∧
          [Capability.messaging] = before ++ missing :: after := by simpa using split
      exact absurd (here .persistence (by simp)) (by decide)
  subst first
  exact refused failsHalfway.constructor

end Act

/-! ## The injector -/

/-- **The injector is confined** to what a flow declares, at every moment of the run that builds it,
whatever the constructor did before. For a declared capability it hands out the mock that the
registry has and had from the start. For any other it names the flow and the capability, whether or
not the registry has one, and whatever it is called. So it was with all that was asked for before,
and nothing that was declared was ever missing. -/
theorem Blueprint.Leads.injector_confined {flow : Blueprint α} {r : RegistryId} {w w' : World}
    {deeds : List Deed} {moment : Constructor α} (satisfied : flow.IsSatisfied (w.registry r))
    (leads : flow.Leads r flow.constructor w deeds moment w') :
    Act.createFlow r flow w = Act.createFlow r { flow with constructor := moment } w' ∧
    (∀ c ∈ flow.dependencies, ∃ m, (w.registry r).mock? c = some m ∧
      Act.mock r c w' = (.ok m, w') ∧
      Act.inject flow.name flow.dependencies r c w' = (.ok m, w')) ∧
    (∀ c ∉ flow.dependencies, Act.inject flow.name flow.dependencies r c w' =
      (.error (.undeclaredDependency flow.name c.name), w')) ∧
    ∀ c answer, .asked c answer ∈ deeds →
      (∃ m, c ∈ flow.dependencies ∧ (w.registry r).mock? c = some m ∧ answer = .ok m) ∨
      c ∉ flow.dependencies ∧ answer = .error (.undeclaredDependency flow.name c.name) := by
  -- What was there when the run began is there at each of its moments.
  have declared : ∀ {before moment w''}, flow.Leads r flow.constructor w before moment w'' →
      ∀ c ∈ flow.dependencies, ∃ m, (w.registry r).mock? c = some m ∧
        (w''.registry r).mock? c = some m ∧
        Act.inject flow.name flow.dependencies r c w'' = (.ok m, w'') := by
    intro before moment w'' leads c isDeclared
    obtain ⟨m, has⟩ := Option.isSome_iff_exists.mp (satisfied c isDeclared)
    have still := leads.mock?_iff.mpr (.inl has)
    refine ⟨m, has, still, ?_⟩
    rw [Act.inject_apply, if_pos (by simpa using isDeclared), still]
  have undeclared : ∀ w'', ∀ c ∉ flow.dependencies,
      Act.inject flow.name flow.dependencies r c w'' =
        (.error (.undeclaredDependency flow.name c.name), w'') := by
    intro w'' c other
    rw [Act.inject_apply, if_neg (by simpa using other)]
  refine ⟨?_, fun c isDeclared => ?_, undeclared w', fun c answer asked => ?_⟩
  · have still : ({ flow with constructor := moment } : Blueprint α).IsSatisfied
        (w'.registry r) := by
      intro c isDeclared
      obtain ⟨m, -, there, -⟩ := declared leads c isDeclared
      exact Option.isSome_of_eq_some there
    rw [Act.createFlow_of_isSatisfied satisfied, Act.createFlow_of_isSatisfied still,
      leads.construct_eq, leads.participant]
  · obtain ⟨m, has, there, handed⟩ := declared leads c isDeclared
    refine ⟨m, has, ?_, handed⟩
    rw [Act.mock_apply, World.mock, there]
  · obtain ⟨before, moment, w'', earlier, same⟩ := leads.exists_of_asked asked
    by_cases isDeclared : c ∈ flow.dependencies
    · obtain ⟨m, has, -, handed⟩ := declared earlier c isDeclared
      exact .inl ⟨m, isDeclared, has, by rw [same, handed]⟩
    · exact .inr ⟨isDeclared, by rw [same, undeclared w'' c isDeclared]⟩

/-- A flow whose constructor registers a service of its own that has the name of a declared one. -/
def registersTwin : Blueprint Unit :=
  ⟨"F", [.engine], .register (.client "twin" "FlowEngine") fun _ =>
    .inject (.client "twin" "FlowEngine") fun _ => .inject .engine fun _ => .built ()⟩

theorem injector_confined_twin :
    let w : World := (Act.buildRegistry "Alice" [.engine] {}).2
    let w' : World := (Act.register 0 (.client "twin" "FlowEngine") w).2
    (w'.registry 0).mock? (.client "twin" "FlowEngine") = some 1 ∧
    Act.inject "F" [.engine] 0 (.client "twin" "FlowEngine") w' =
      (.error (.undeclaredDependency "F" "FlowEngine"), w') ∧
    Act.inject "F" [.engine] 0 .engine w' = (.ok 0, w') := by
  intro w w'
  have satisfied : registersTwin.IsSatisfied (w.registry 0) := by decide
  have leads : registersTwin.Leads 0 registersTwin.constructor w
      [.registered (.client "twin" "FlowEngine") (.ok 1)] _ w' := .registers .here
  obtain ⟨-, declared, undeclared, -⟩ := leads.injector_confined satisfied
  obtain ⟨m, has, -, handed⟩ := declared .engine (by decide)
  have first : (w.registry 0).mock? .engine = some 0 := by rfl
  rw [first] at has
  cases has
  exact ⟨rfl, undeclared (.client "twin" "FlowEngine") (by decide), handed⟩

end Rehearsal
