import Rehearsal.Proofs.Drive.Changes
import Rehearsal.Proofs.World.Enlistments

/-!
# The identity of mocks

A capability of a registry has one mock, from when it is registered on and for everybody who asks,
and no other capability and no other registry ever has that mock. This holds over every history:
commands and driven runs in any order, and flows whose constructors register what they like.
-/

namespace Rehearsal

namespace World

variable {w w' : World} {a : RegistryId} {c : Capability} {m : MockId}

/-- However the mock of a capability is asked for, it is this one, and asking changes nothing. Only
a flow that has not declared the capability is given none. -/
structure Gives (w : World) (a : RegistryId) (c : Capability) (m : MockId) : Prop where
  mock : Act.mock a c w = (.ok m, w)
  register : Act.register a c w = (.ok m, w)
  inject : ∀ flow declared, Act.inject flow declared a c w =
    (if declared.contains c then .ok m else .error (.undeclaredDependency flow c.name), w)

theorem gives_of_mock? (h : (w.registry a).mock? c = some m) : w.Gives a c m where
  mock := by rw [Act.mock_apply, World.mock, h]
  register := by rw [Act.register_apply, h]
  inject flow declared := by rw [Act.inject_apply, h]

/-- Whoever registers a capability is given the mock that all are given from then on. -/
theorem gives_of_register (h : Act.register a c w = (.ok m, w')) : w'.Gives a c m := by
  rw [Act.register_apply] at h
  cases found : (w.registry a).mock? c with
  | some n =>
    rw [found] at h
    cases h
    exact gives_of_mock? found
  | none =>
    rw [found] at h
    cases isOpen : (w.registry a).isSealed with
    | true =>
      rw [isOpen] at h
      cases h
    | false =>
      rw [isOpen] at h
      cases h
      exact gives_of_mock? (mock?_addService found)

/-- A registry that is built is new, and has what it was built with. -/
theorem registry_of_built {participant : String} {capabilities : List Capability}
    (h : Act.buildRegistry participant capabilities w = (.ok a, w')) : a = w.registryCount ∧
      w'.registry a = { participant, services := (w.freshServices capabilities).1 } := by
  rw [Act.buildRegistry_apply] at h
  cases h
  exact ⟨rfl, Store.get_set_self _ _ _⟩

/-- A capability was registered between two moments: with the registry, or later. -/
def Registered (w : World) (a : RegistryId) (c : Capability) (w' : World) : Prop :=
  ∃ v v', w.Changes v ∧ v'.Changes w' ∧
    ((∃ participant capabilities, Act.buildRegistry participant capabilities v = (.ok a, v') ∧
        c ∈ capabilities) ∨
      ∃ m, Act.register a c v = (.ok m, v'))

/-- A mock that a change brings was registered by that change. -/
theorem Enlists.registered_of_found (enlists : w.Enlists w') (lacks : (w.registry a).mock? c = none)
    (found : (w'.registry a).mock? c = some m) : w.Registered a c w' := by
  refine ⟨w, w', .refl w, .refl w', ?_⟩
  -- A change to another registry, or to another capability, brings no mock here.
  cases enlists with
  | nothing registries =>
    rw [registry, registries, ← registry, lacks] at found
    cases found
  | built participant capabilities act registries =>
    rw [registry_set registries] at found
    split at found
    · next new =>
      refine .inl ⟨participant, capabilities, new ▸ act, ?_⟩
      exact (mem_freshServices (Registry.mem_of_mock? found)).1
    · rw [show w.registries.get a = w.registry a from rfl, lacks] at found
      cases found
  | registered r₀ c₀ known lacks₀ act registries =>
    rw [registry_set registries] at found
    split at found
    · next here =>
      subst here
      rcases List.mem_append.mp (Registry.mem_of_mock? found) with old | new
      · have apart := List.lookup_eq_none_iff.mp lacks (c, m) old
        simp at apart
      · cases List.mem_singleton.mp new
        exact .inr ⟨_, act⟩
    · rw [show w.registries.get a = w.registry a from rfl, lacks] at found
      cases found
  | closed r₀ known registries =>
    rw [registry_set registries] at found
    split at found
    · next here =>
      subst here
      have there : (w.registry a).mock? c = some m := found
      rw [lacks] at there
      cases there
    · rw [show w.registries.get a = w.registry a from rfl, lacks] at found
      cases found

/-- A mock that was not there before was registered meanwhile. -/
theorem Changes.registered (changes : w.Changes w') (lacks : (w.registry a).mock? c = none)
    (found : (w'.registry a).mock? c = some m) : w.Registered a c w' := by
  induction changes generalizing m with
  | refl =>
    rw [lacks] at found
    cases found
  | @tail v w' changes change ih =>
    cases there : (v.registry a).mock? c with
    | some n =>
      obtain ⟨u, u', before, after, act⟩ := ih there
      exact ⟨u, u', before, after.tail change, act⟩
    | none =>
      obtain ⟨u, u', before, after, act⟩ := change.enlists.registered_of_found there found
      exact ⟨u, u', changes.trans before, after, act⟩

end World

/-! ## Asking -/

/-- Looking up a capability changes nothing in the world. -/
theorem Command.world_lookUp (me : Waiter) (name : String) (c : Capability) (stage : Stage) :
    ((lookUp name c).run me stage).2.world = stage.world := by
  have shown : ∀ (m : MockId) (stage : Stage), (Play.showMock m stage).2.world = stage.world := by
    intro m stage
    rw [Play.showMock, bind_apply, get_apply]
    dsimp only
    split <;> rfl
  have mocked : (Play.mock name c stage).2 = stage := by
    rw [Play.mock, bind_apply]
    rw [Play.registry, Play.resolve_apply]
    cases stage.registries.lookup name with
    | none => rfl
    | some a =>
      dsimp only
      rw [Play.act_apply, Act.mock_apply]
  rw [run, bind_apply]
  -- The mock is found or not; if it is, it is shown.
  revert mocked
  rcases Play.mock name c stage with ⟨_ | m, after⟩
  · exact fun mocked => congrArg Stage.world mocked
  · intro mocked
    have same : (Play.showMock m after).2.world = stage.world :=
      (shown m after).trans (congrArg Stage.world mocked)
    dsimp only
    rw [bind_apply]
    revert same
    rcases Play.showMock m after with ⟨_ | n, last⟩
    · exact id
    · exact id

/-- Whether a capability is registered is seen without any change. -/
theorem Command.stage_contains (me : Waiter) (name : String) (c : Capability) (stage : Stage) :
    ((contains name c).run me stage).2 = stage := by
  rw [run, bind_apply, Play.registry, Play.resolve_apply]
  cases stage.registries.lookup name <;> rfl

/-! ## Histories with flows of any kind -/

namespace Run

/-- One thing that happens, or a flow of any kind that is built from a named registry. A constructor
may stop anywhere, so the moments between its steps are moments of a history, too. -/
inductive Happens : Run → Run → Prop where
  | step {r r' : Run} (step : Step r r') : Happens r r'
  | create {α : Type} {r : Run} {name : String} {a : RegistryId}
      (named : (name, a) ∈ r.stage.registries) (flow : Blueprint α) :
    Happens r { r with
      stage := { r.stage with world := (Act.createFlow a flow r.stage.world).2 } }

/-- A run that came of anything that can happen, from an empty stage on. -/
def Possible : Run → Prop := Relation.ReflTransGen Happens { stage := {}, tasks := [] }

variable {r r' : Run}

theorem Reached.possible (h : r.Reached) : r.Possible := by
  induction h with
  | refl => exact .refl
  | tail _ step ih => exact ih.tail (.step step)

theorem Happens.follows (happens : Happens r r') (enrolled : r.stage.Enrolled) :
    r.stage.Follows r'.stage := by
  cases happens with
  | step step => exact step.follows enrolled
  | create named flow => exact enrolled.goOn (Act.change_createFlow _ flow _ (enrolled _ named))

theorem follows_of_history (history : Relation.ReflTransGen Happens r r')
    (enrolled : r.stage.Enrolled) : r.stage.Follows r'.stage := by
  induction history with
  | refl => exact enrolled.follows
  | tail _ happens ih => exact ih.trans (happens.follows ih.enrolled)

theorem Possible.owned (h : r.Possible) : r.stage.world.Owned ∧ r.stage.Enrolled := by
  have follows := follows_of_history h Stage.Enrolled.empty
  exact ⟨(follows.world.retains World.Owned.empty).1, follows.enrolled⟩

/-- **The identity of mocks.** A mock belongs to one registry and one capability. Once a capability
is registered, it stays so, and all who look it up, register it or have it injected are given the
same mock. Looking up changes nothing, and gives a mock exactly for what is registered. Only
registering a capability, or building a registry with it, registers it. -/
theorem Possible.mock_identity (h : r.Possible) :
    (∀ a b c d m, (r.stage.world.registry a).mock? c = some m →
      (r.stage.world.registry b).mock? d = some m → a = b ∧ c = d) ∧
    (∀ r', Relation.ReflTransGen Happens r r' →
      (∀ a c m, (r.stage.world.registry a).mock? c = some m → r'.stage.world.Gives a c m) ∧
      (∀ p ∈ r.stage.registries, (r'.stage.world.registry p.2).participant =
        (r.stage.world.registry p.2).participant) ∧
      ∀ a c, (r.stage.world.registry a).contains c = false →
        (r'.stage.world.registry a).contains c →
          r.stage.world.Registered a c r'.stage.world) ∧
    (∀ a c, (Act.mock a c r.stage.world).2 = r.stage.world ∧
      ((r.stage.world.registry a).contains c → ∃ m, (Act.mock a c r.stage.world).1 = .ok m) ∧
      ((r.stage.world.registry a).contains c = false → (Act.mock a c r.stage.world).1 =
        .error (.capabilityNotRegistered (r.stage.world.registry a).participant c.name))) ∧
    (∀ me name c, ((Command.lookUp name c).run me r.stage).2.world = r.stage.world ∧
      ((Command.contains name c).run me r.stage).2 = r.stage) ∧
    (∀ a c m w, Act.register a c r.stage.world = (.ok m, w) → w.Gives a c m) ∧
    (∀ participant capabilities a w,
      Act.buildRegistry participant capabilities r.stage.world = (.ok a, w) →
        (∀ p ∈ r.stage.registries, p.2 ≠ a) ∧ (w.registry a).participant = participant ∧
          ∀ c, (w.registry a).contains c ↔ c ∈ capabilities) ∧
    ∀ me source copy a, r.stage.registries.lookup source = some a →
      ((Command.copyRegistry copy source).run me r.stage).2 =
        { r.stage with registries := (copy, a) :: r.stage.registries } := by
  obtain ⟨owned, enrolled⟩ := h.owned
  refine ⟨fun a b c d m found found' => ?_, fun r' history => ?_, fun a c => ?_,
    fun me name c => ⟨Command.world_lookUp me name c _, Command.stage_contains me name c _⟩,
    fun a c m w registered => ?_, fun participant capabilities a w built => ?_,
    fun me source copy a named => ?_⟩
  · exact owned.owner a b c d m (Registry.mem_of_mock? found) (Registry.mem_of_mock? found')
  · have changes := (follows_of_history history enrolled).world
    have retains := (changes.retains owned).2
    refine ⟨fun a c m found => World.gives_of_mock? (retains.mocks a c m found),
      fun p hp => retains.participant p.2 (enrolled p hp), fun a c lacks has => ?_⟩
    obtain ⟨m, found⟩ := Option.isSome_iff_exists.mp has
    exact changes.registered (Option.isSome_eq_false_iff.mp lacks |> Option.isNone_iff_eq_none.mp)
      found
  · rw [Act.mock_apply, World.mock, Registry.contains]
    cases (r.stage.world.registry a).mock? c with
    | some m => exact ⟨rfl, fun _ => ⟨m, rfl⟩, fun absent => by cases absent⟩
    | none => exact ⟨rfl, fun present => absurd present (by simp), fun _ => rfl⟩
  · exact World.gives_of_register registered
  · obtain ⟨rfl, registry⟩ := World.registry_of_built built
    rw [registry]
    refine ⟨fun p hp => Nat.ne_of_lt (enrolled p hp), rfl, fun c => ?_⟩
    rw [Registry.contains_iff, World.fst_freshServices, List.mem_eraseDups]
  · have resolved : Play.registry source r.stage = (.ok a, r.stage) := by
      rw [Play.registry, Play.resolve_apply, named]
    rw [Command.run, bind_apply, resolved]
    rfl

/-- Two registries with an engine each, and a copy of the first. -/
def doubles : Run :=
  prepared [.buildRegistry "alice" "Alice" [.engine, .messaging, .engine] none,
    .newRegistry "bob" "Bob", .register "bob" .engine, .copyRegistry "copy" "alice"]

theorem mock_identity_doubles :
    doubles.Possible ∧ doubles.stage.registries.lookup "copy" = some 0 ∧
      (doubles.stage.world.registry 0).mock? .engine = some 0 ∧
      (doubles.stage.world.registry 1).mock? .engine ≠ some 0 ∧
      ∀ r', Relation.ReflTransGen Happens doubles r' → r'.stage.world.Gives 0 .engine 0 := by
  have possible : doubles.Possible := (reached_prepared _).1.possible
  obtain ⟨apart, later, -⟩ := possible.mock_identity
  have found : (doubles.stage.world.registry 0).mock? .engine = some 0 := by rfl
  refine ⟨possible, by rfl, found, fun shared => ?_, fun r' history => ?_⟩
  · have same := (apart 0 1 .engine .engine 0 found shared).1
    cases same
  · exact (later r' history).1 0 .engine 0 found

end Run

end Rehearsal
