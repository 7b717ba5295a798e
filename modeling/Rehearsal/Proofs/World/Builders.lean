import Mathlib.Data.List.Induction
import Rehearsal.Proofs.Keeping
import Rehearsal.Proofs.Lists
import Rehearsal.World.Registries

/-!
# Registries that are built

A builder takes one capability after the other and makes a mock for each that it has not taken yet.
So a registry is built with every capability once, in the order in which they were first listed, and
its mocks are the next ones.
-/

namespace Rehearsal

namespace World

variable {w : World} {capabilities : List Capability}

/-- The services that a builder has come to, and the mocks that it has made. -/
theorem freshServices_eq (w : World) (capabilities : List Capability) :
    w.freshServices capabilities =
      (capabilities.eraseDups.zip (List.range' w.mockCount capabilities.eraseDups.length),
        { w with mockCount := w.mockCount + capabilities.eraseDups.length }) := by
  -- The builder takes the list from its front, so its last step is taken off first.
  induction capabilities using List.reverseRecOn with
  | nil => rfl
  | append_singleton cs c ih =>
    have listed : ((cs.eraseDups.zip (List.range' w.mockCount cs.eraseDups.length)).lookup c).isSome
        ↔ c ∈ cs := by
      rw [isSome_lookup_iff, List.map_fst_zip (by simp), List.mem_eraseDups]
    have step : w.freshServices (cs ++ [c]) = addCapability (w.freshServices cs) c :=
      List.foldl_append ..
    rw [step, ih, addCapability, eraseDups_concat]
    by_cases there : c ∈ cs
    · obtain ⟨m, found⟩ := Option.isSome_iff_exists.mp (listed.mpr there)
      rw [found, if_pos there]
    · have lacks := Option.not_isSome_iff_eq_none.mp fun has => there (listed.mp has)
      rw [lacks, if_neg there, List.length_append, List.length_singleton, List.range'_concat,
        Nat.one_mul, List.zip_append List.length_range'.symm]
      rfl

/-- All that building a registry does. -/
theorem addRegistry_freshServices (w : World) (participant : String)
    (capabilities : List Capability) :
    (w.freshServices capabilities).2.addRegistry participant (w.freshServices capabilities).1 =
      (w.registryCount, { w with
        registries := w.registries.set w.registryCount
          { participant, services := (w.freshServices capabilities).1 }
        registryCount := w.registryCount + 1
        mockCount := w.mockCount + capabilities.eraseDups.length
        log := w.log ++ [.registryCreated w.registryCount participant
          (w.freshServices capabilities).1.length] }) := by
  rw [freshServices_eq]
  rfl

/-- A registry that is built gets each of its capabilities once, with a new mock. -/
theorem mem_freshServices {c : Capability} {m : Nat}
    (h : (c, m) ∈ (w.freshServices capabilities).1) : c ∈ capabilities ∧ w.mockCount ≤ m ∧
      m < w.mockCount + capabilities.eraseDups.length := by
  rw [freshServices_eq] at h
  obtain ⟨mem, range⟩ := List.of_mem_zip h
  obtain ⟨least, most⟩ := List.mem_range'_1.mp range
  exact ⟨List.mem_eraseDups.mp mem, least, most⟩

theorem fst_freshServices (w : World) (capabilities : List Capability) :
    (w.freshServices capabilities).1.map Prod.fst = capabilities.eraseDups := by
  rw [freshServices_eq]
  exact List.map_fst_zip (by simp)

theorem snd_freshServices (w : World) (capabilities : List Capability) :
    (w.freshServices capabilities).1.map Prod.snd =
      List.range' w.mockCount capabilities.eraseDups.length := by
  rw [freshServices_eq]
  exact List.map_snd_zip (by simp)

end World

theorem Act.buildRegistry_apply (participant : String) (capabilities : List Capability)
    (w : World) : buildRegistry participant capabilities w = (.ok w.registryCount, { w with
      registries := w.registries.set w.registryCount
        { participant, services := (w.freshServices capabilities).1 }
      registryCount := w.registryCount + 1
      mockCount := w.mockCount + capabilities.eraseDups.length
      log := w.log ++ [.registryCreated w.registryCount participant
        (w.freshServices capabilities).1.length] }) := by
  rw [buildRegistry, modifyGet_apply]
  dsimp only
  rw [World.addRegistry_freshServices]

end Rehearsal
