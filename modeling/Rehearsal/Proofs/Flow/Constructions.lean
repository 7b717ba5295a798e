import Rehearsal.Proofs.Sealing

/-!
# Constructors at work

A constructor runs in steps: it registers a capability or asks for one, is given an answer, and goes
on as the answer has it. `Blueprint.Leads` follows such a run up to any moment and keeps what was
done, with the answers. Nothing a constructor does takes a mock out of its registry or puts another
in its place, so what a registry has at a moment is what it had before and what the constructor
registered.
-/

namespace Rehearsal

/-- What a constructor did, and the answer that it was given. -/
inductive Deed where
  | registered (c : Capability) (answer : Except Error MockId)
  | asked (c : Capability) (answer : Except Error MockId)

variable {α : Type}

/-- While a flow is built, its constructor comes from one moment to a later one by these deeds. -/
inductive Blueprint.Leads (flow : Blueprint α) (r : RegistryId) :
    Constructor α → World → List Deed → Constructor α → World → Prop where
  | here {c : Constructor α} {w : World} : Leads flow r c w [] c w
  | registers {c : Capability} {next : Except Error MockId → Constructor α} {w w' : World}
      {deeds : List Deed} {last : Constructor α}
      (others : Leads flow r (next (Act.register r c w).1) (Act.register r c w).2 deeds last w') :
    Leads flow r (.register c next) w (.registered c (Act.register r c w).1 :: deeds) last w'
  | asks {c : Capability} {next : Except Error MockId → Constructor α} {w w' : World}
      {deeds : List Deed} {last : Constructor α}
      (others : Leads flow r (next (Act.inject flow.name flow.dependencies r c w).1) w deeds last
        w') :
    Leads flow r (.inject c next) w
      (.asked c (Act.inject flow.name flow.dependencies r c w).1 :: deeds) last w'

/-! ## What registering does to a registry -/

section

variable {r a : RegistryId} {c d : Capability} {m : MockId} {w : World}

theorem Registry.mock?_add {s : Registry} {n : MockId} (lacks : s.mock? c = none) :
    (s.add c n).mock? d = some m ↔ s.mock? d = some m ∨ d = c ∧ n = m := by
  constructor
  · intro found
    cases there : s.mock? d with
    | some k =>
      rw [mock?_add_of_some there] at found
      exact .inl found
    | none =>
      by_cases same : d = c
      · subst same
        rw [mock?_add_self there] at found
        exact .inr ⟨rfl, Option.some.inj found⟩
      · have apart : (d == c) = false := by simpa using same
        rw [mock?] at there
        simp [mock?, add, List.lookup_append, there, List.lookup_cons, apart] at found
  · rintro (there | ⟨rfl, rfl⟩)
    · exact mock?_add_of_some there
    · exact mock?_add_self lacks

/-- Registering hands out the mock that is there, or is refused, or adds a new mock to the registry;
nothing else happens to any registry. -/
theorem Act.register_cases (r : RegistryId) (c : Capability) (w : World) :
    (∃ m, (w.registry r).mock? c = some m ∧ register r c w = (.ok m, w)) ∨
    ((w.registry r).mock? c = none ∧ ∃ e, register r c w = (.error e, w)) ∨
    ((w.registry r).mock? c = none ∧ (register r c w).1 = .ok w.mockCount ∧
      ∀ a, (register r c w).2.registry a =
        if a = r then (w.registry r).add c w.mockCount else w.registry a) := by
  rw [register_apply]
  cases found : (w.registry r).mock? c with
  | some m => exact .inl ⟨m, rfl, rfl⟩
  | none =>
    cases isOpen : (w.registry r).isSealed with
    | true => exact .inr (.inl ⟨rfl, _, rfl⟩)
    | false => exact .inr (.inr ⟨rfl, rfl, World.registry_set rfl⟩)

/-- After a capability is registered, the registry has its mock besides those it had. -/
theorem Act.mock?_register (r : RegistryId) (c : Capability) (w : World) :
    ((register r c w).2.registry r).mock? d = some m ↔
      (w.registry r).mock? d = some m ∨ d = c ∧ (register r c w).1 = .ok m := by
  rcases register_cases r c w with ⟨n, found, same⟩ | ⟨-, e, same⟩ | ⟨lacks, answer, registry⟩
  · rw [same]
    refine ⟨.inl, ?_⟩
    rintro (there | ⟨rfl, answer⟩)
    · exact there
    · cases answer
      exact found
  · simp [same]
  · rw [registry, if_pos rfl, Registry.mock?_add lacks, answer, Except.ok.injEq]

/-- Registering on one registry leaves the others as they are. -/
theorem Act.registry_register_of_ne (apart : a ≠ r) (c : Capability) (w : World) :
    (register r c w).2.registry a = w.registry a := by
  rcases register_cases r c w with ⟨n, -, same⟩ | ⟨-, e, same⟩ | ⟨-, -, registry⟩
  · rw [same]
  · rw [same]
  · rw [registry, if_neg apart]

theorem Act.participant_register (r : RegistryId) (c : Capability) (w : World) :
    ((register r c w).2.registry r).participant = (w.registry r).participant := by
  rcases register_cases r c w with ⟨n, -, same⟩ | ⟨-, e, same⟩ | ⟨-, -, registry⟩
  · rw [same]
  · rw [same]
  · rw [registry, if_pos rfl]
    rfl

end

/-! ## Runs -/

namespace Blueprint

variable {flow : Blueprint α} {r a : RegistryId} {first last : Constructor α} {w w' : World}
  {deeds : List Deed}

/-- A constructor comes to what it comes to from any later moment of its run. -/
theorem Leads.construct_eq (leads : flow.Leads r first w deeds last w') :
    Act.construct flow.name flow.dependencies r first w =
      Act.construct flow.name flow.dependencies r last w' := by
  induction leads with
  | here => rfl
  | registers others ih => exact ih
  | @asks c next w w' deeds last others ih =>
    -- Asking changes nothing in the world.
    have asking : (Act.inject flow.name flow.dependencies r c w).2 = w := by rw [Act.inject_apply]
    have first : Act.construct flow.name flow.dependencies r (.inject c next) w =
        Act.construct flow.name flow.dependencies r
          (next (Act.inject flow.name flow.dependencies r c w).1)
          (Act.inject flow.name flow.dependencies r c w).2 := rfl
    rw [first, asking, ih]

/-- Every constructor comes to its end. -/
theorem exists_leads (flow : Blueprint α) (r : RegistryId) (c : Constructor α) (w : World) :
    ∃ deeds answer w', flow.Leads r c w deeds (.ofExcept answer) w' := by
  induction c generalizing w with
  | built built => exact ⟨[], .ok built, w, .here⟩
  | failed e => exact ⟨[], .error e, w, .here⟩
  | register c next ih =>
    obtain ⟨deeds, answer, w', others⟩ := ih _ (Act.register r c w).2
    exact ⟨_, answer, w', .registers others⟩
  | inject c next ih =>
    obtain ⟨deeds, answer, w', others⟩ := ih _ w
    exact ⟨_, answer, w', .asks others⟩

/-- **What a registry has** at a moment of a constructor: what it had, and what was registered. -/
theorem Leads.mock?_iff (leads : flow.Leads r first w deeds last w') {c : Capability}
    {m : MockId} : (w'.registry r).mock? c = some m ↔
      (w.registry r).mock? c = some m ∨ .registered c (.ok m) ∈ deeds := by
  induction leads with
  | here => simp
  | @registers d next w w' deeds last others ih =>
    rw [ih, Act.mock?_register, or_assoc]
    simp [eq_comm]
  | asks others ih => simp [ih]

/-- What was asked for was asked for at some moment of the run, and answered by the injector. -/
theorem Leads.exists_of_asked (leads : flow.Leads r first w deeds last w') {c : Capability}
    {answer : Except Error MockId} (asked : .asked c answer ∈ deeds) :
    ∃ before moment w'', flow.Leads r first w before moment w'' ∧
      answer = (Act.inject flow.name flow.dependencies r c w'').1 := by
  induction leads with
  | here => cases asked
  | registers others ih =>
    obtain ⟨before, moment, w'', leads, same⟩ := ih (by simpa using asked)
    exact ⟨_, moment, w'', .registers leads, same⟩
  | asks others ih =>
    rcases List.mem_cons.mp asked with now | later
    · cases now
      exact ⟨[], _, _, .here, rfl⟩
    · obtain ⟨before, moment, w'', leads, same⟩ := ih later
      exact ⟨_, moment, w'', .asks leads, same⟩

/-- A constructor leaves the seals of all registries alone. -/
theorem Leads.spares (leads : flow.Leads r first w deeds last w') : World.Spares a w w' := by
  induction leads with
  | here => exact .refl _
  | @registers c next w w' deeds last others ih => exact (Act.spares_register r c w).trans ih
  | asks others ih => exact ih

theorem Leads.registry_of_ne (leads : flow.Leads r first w deeds last w') (apart : a ≠ r) :
    w'.registry a = w.registry a := by
  induction leads with
  | here => rfl
  | @registers c next w w' deeds last others ih =>
    rw [ih, Act.registry_register_of_ne apart]
  | asks others ih => exact ih

theorem Leads.participant (leads : flow.Leads r first w deeds last w') :
    (w'.registry r).participant = (w.registry r).participant := by
  induction leads with
  | here => rfl
  | @registers c next w w' deeds last others ih => rw [ih, Act.participant_register]
  | asks others ih => exact ih

end Blueprint

end Rehearsal
