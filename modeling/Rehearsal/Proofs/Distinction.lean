import Mathlib.Data.List.Sort
import Rehearsal.Proofs.Identity
import Rehearsal.Proofs.Text.Bytes
import Rehearsal.Proofs.World.Mirroring
import Rehearsal.Proofs.World.Operations

/-!
# Capabilities are told apart

Two capabilities may have one name and are still two. Whatever is done with the one on a registry,
nobody who asks for the other can tell, whether it is done before or after the registry is sealed:
all are answered as if it had not been done, with other mocks that are shared as the others would
have been. A registry lists its capabilities by their names, each as often as it stands for a
capability, in the order of their bytes.
-/

namespace Rehearsal

/-! ## Calls on registries -/

/-- A call on a registry, through whichever copy. Of a flow it is given which mocks it holds once it
is built. -/
inductive RegistryCall : Type 1 where
  | register (r : RegistryId) (c : Capability)
  | lookUp (r : RegistryId) (c : Capability)
  | contains (r : RegistryId) (c : Capability)
  | create {α : Type} (r : RegistryId) (flow : Blueprint α) (holds : α → List MockId)

/-- What a call on a registry is answered. -/
inductive RegistryReply where
  | mocks (ms : List MockId)
  | flag (b : Bool)
  | refused (e : Error)

namespace RegistryReply

/-- An answer with the mocks it tells of, or an error. -/
def ofMocks : Except Error (List MockId) → RegistryReply
  | .ok ms => mocks ms
  | .error e => refused e

/-- The same answer where mocks have other numbers. -/
def rename (σ : Equiv.Perm MockId) : RegistryReply → RegistryReply
  | mocks ms => mocks (ms.map σ)
  | flag b => flag b
  | refused e => refused e

theorem ofMocks_map (σ : Equiv.Perm MockId) (answer : Except Error (List MockId)) :
    ofMocks (answer.map (List.map σ)) = (ofMocks answer).rename σ := by
  cases answer <;> rfl

end RegistryReply

namespace RegistryCall

open RegistryReply

/-- The registry that is called. -/
def registry : RegistryCall → RegistryId
  | register r _ => r
  | lookUp r _ => r
  | contains r _ => r
  | create r _ _ => r

/-- A call that concerns only this capability. -/
def IsFor (d : Capability) : RegistryCall → Prop
  | register _ c => c = d
  | lookUp _ c => c = d
  | contains _ c => c = d
  | create _ _ _ => False

instance (d : Capability) (call : RegistryCall) : Decidable (call.IsFor d) :=
  match call with
  | register _ c => inferInstanceAs (Decidable (c = d))
  | lookUp _ c => inferInstanceAs (Decidable (c = d))
  | contains _ c => inferInstanceAs (Decidable (c = d))
  | create _ _ _ => inferInstanceAs (Decidable False)

/-- The answer to a call. -/
def reply (w : World) : RegistryCall → RegistryReply
  | register r c => ofMocks ((Act.register r c w).1.map ([·]))
  | lookUp r c => ofMocks ((Act.mock r c w).1.map ([·]))
  | contains r c => flag ((w.registry r).contains c)
  | create r flow holds => ofMocks ((Act.createFlow r flow w).1.map holds)

/-- The world after a call. -/
def after (w : World) : RegistryCall → World
  | register r c => (Act.register r c w).2
  | lookUp r c => (Act.mock r c w).2
  | contains _ _ => w
  | create r flow _ => (Act.createFlow r flow w).2

/-- The world after a row of calls. -/
def afterAll (w : World) (calls : List RegistryCall) : World := calls.foldl after w

/-- What a row of calls is told: of each that is not for this capability its answer, and whether the
registry is sealed then. -/
def toldBut (d : Capability) : World → List RegistryCall → List (RegistryReply × Bool)
  | _, [] => []
  | w, call :: calls =>
    let told := toldBut d (call.after w) calls
    if call.IsFor d then told
    else (call.reply w, ((call.after w).registry call.registry).isSealed) :: told

/-- A flow that is built has nothing to do with a capability: it does not declare it, and does not
register it where it is built. It does the same whatever numbers mocks have. -/
def Shuns (d : Capability) (w : World) : RegistryCall → Prop
  | create r flow holds => d ∉ flow.dependencies ∧ flow.constructor.Impartial holds ∧
      (flow.IsSatisfied (w.registry r) → ∀ deeds last v,
        flow.Leads r flow.constructor w deeds last v → ∀ answer, .registered d answer ∉ deeds)
  | _ => True

/-- No flow that is built by a row of calls has anything to do with a capability. -/
def AllShun (d : Capability) : World → List RegistryCall → Prop
  | _, [] => True
  | w, call :: calls => call.Shuns d w ∧ AllShun d (call.after w) calls

/-- Calls that are for a capability were inserted into a row of calls, anywhere. -/
inductive Inserted (d : Capability) : List RegistryCall → List RegistryCall → Prop where
  | nothing : Inserted d [] []
  | kept {calls calls' : List RegistryCall} (call : RegistryCall)
      (others : Inserted d calls calls') : Inserted d (call :: calls) (call :: calls')
  | added {calls calls' : List RegistryCall} {call : RegistryCall} (isFor : call.IsFor d)
      (others : Inserted d calls calls') : Inserted d calls (call :: calls')

/-! ## Histories -/

open World (Mirrors Continues Extends)

variable {d : Capability} {σ : Equiv.Perm MockId} {w w' : World} {calls calls' : List RegistryCall}
  {call : RegistryCall}

/-- All that a call for a capability can do is to register it. -/
theorem after_of_isFor (isFor : call.IsFor d) (w : World) :
    call.after w = w ∨ ∃ r, call.after w = (Act.register r d w).2 := by
  cases call with
  | register r c =>
    cases isFor
    exact .inr ⟨r, rfl⟩
  | lookUp r c =>
    rw [after, Act.mock_apply]
    exact .inl rfl
  | contains => exact .inl rfl
  | create => exact isFor.elim

/-- A call for a capability is not seen where that is left aside. -/
theorem mirrors_after_left (h : Mirrors d σ w w') (isFor : call.IsFor d) :
    Mirrors d σ (call.after w) w' := by
  rcases after_of_isFor isFor w with same | ⟨r, same⟩
  · rwa [same]
  · rw [same]
    exact h.register_left r

theorem mirrors_after_right (h : Mirrors d σ w w') (isFor : call.IsFor d) :
    Mirrors d σ w (call.after w') := by
  rcases after_of_isFor isFor w' with same | ⟨r, same⟩
  · rwa [same]
  · rw [same]
    exact h.register_right r

theorem has_after {m : MockId} (has : w.Has d m) (isFor : call.IsFor d) :
    (call.after w).Has d m := by
  rcases after_of_isFor isFor w with same | ⟨r, same⟩
  · rwa [same]
  · rw [same]
    exact World.has_register has

/-- Any other call is answered the same in two worlds that mirror each other, up to a renaming. -/
theorem continues_after (h : Mirrors d σ w w') (other : ¬ call.IsFor d) (shuns : call.Shuns d w) :
    ∃ σ', Continues d w σ (call.after w) (call.after w') σ' ∧
      ∀ σ'', Extends d (call.after w) σ' σ'' → call.reply w' = (call.reply w).rename σ'' := by
  cases call with
  | register r c =>
    obtain ⟨σ', continues, answer, handed⟩ := h.register other r
    refine ⟨σ', continues, fun σ'' agrees => ?_⟩
    rw [reply, reply, answer, ← agrees.map_answer handed]
    cases (Act.register r c w).1 <;> rfl
  | lookUp r c =>
    have looked : ∀ u : World, (lookUp r c).after u = u := fun u => by rw [after, Act.mock_apply]
    rw [looked, looked]
    refine ⟨σ, h.continues, fun σ' agrees => ?_⟩
    rw [reply, reply, Act.mock_apply, Act.mock_apply]
    dsimp only
    rw [World.mock, World.mock, (h.registry r).mock? c other, (h.registry r).participant,
      ← agrees.map_mock? other]
    cases (w.registry r).mock? c <;> rfl
  | contains r c =>
    exact ⟨σ, h.continues, fun _ _ => congrArg flag ((h.registry r).contains other)⟩
  | create r flow holds =>
    obtain ⟨undeclared, impartial, others⟩ := shuns
    obtain ⟨σ', continues, answer⟩ := h.createFlow undeclared impartial others
    refine ⟨σ', continues, fun σ'' agrees => ?_⟩
    rw [reply, reply, answer σ'' agrees, ← ofMocks_map]
    cases (Act.createFlow r flow w).1 <;> rfl

/-- **Insertions are not noticed.** Whatever calls for a capability are inserted, all calls that are
not for it are told the same, up to a renaming. -/
theorem Inserted.toldBut_eq (inserted : Inserted d calls calls') (h : Mirrors d σ w w')
    (shun : AllShun d w calls) : ∃ σ', Extends d w σ σ' ∧
      toldBut d w' calls' = (toldBut d w calls).map fun told => (told.1.rename σ', told.2) := by
  -- The two worlds go on mirroring each other, whether one of them makes a call or both.
  induction inserted generalizing w w' σ with
  | nothing => exact ⟨σ, .refl d w σ, rfl⟩
  | @kept calls calls' call others ih =>
    obtain ⟨first, rest⟩ := shun
    rw [toldBut, toldBut]
    by_cases isFor : call.IsFor d
    · rw [if_pos isFor, if_pos isFor]
      obtain ⟨σ', agrees, told⟩ :=
        ih (mirrors_after_right (mirrors_after_left h isFor) isFor) rest
      exact ⟨σ', fun m has => agrees m (has_after has isFor), told⟩
    · rw [if_neg isFor, if_neg isFor]
      obtain ⟨σ', continues, answer⟩ := continues_after h isFor first
      obtain ⟨σ'', agrees, told⟩ := ih continues.mirrors rest
      refine ⟨σ'', continues.agrees.trans continues.keeps agrees, ?_⟩
      rw [List.map_cons, told, answer σ'' agrees, (continues.mirrors.registry _).isSealed]
  | @added calls calls' call isFor others ih =>
    obtain ⟨σ', agrees, told⟩ := ih (mirrors_after_right h isFor) shun
    refine ⟨σ', agrees, ?_⟩
    rw [toldBut, if_pos isFor]
    exact told

/-- A row of calls for a capability is not seen by those who ask for others. -/
theorem sameBut_afterAll (w : World) (all : ∀ call ∈ calls, call.IsFor d) (a : RegistryId) :
    (w.registry a).SameBut d ((afterAll w calls).registry a) := by
  induction calls generalizing w with
  | nil => exact .refl d _
  | cons call calls ih =>
    have first : (w.registry a).SameBut d ((call.after w).registry a) := by
      rcases after_of_isFor (all call (List.mem_cons_self ..)) w with same | ⟨r, same⟩
      · rw [same]
        exact .refl d _
      · rw [same]
        exact World.sameBut_register r a d w
    exact first.trans (ih _ fun other mem => all other (List.mem_cons_of_mem _ mem))

end RegistryCall

/-! ## Dependencies -/

section

variable {α : Type} {r : RegistryId} {c : Capability} {w : World}

/-- A flow is not built as long as something that it declares is missing. -/
theorem Act.createFlow_of_lacks {flow : Blueprint α} (declared : c ∈ flow.dependencies)
    (lacks : (w.registry r).contains c = false) : ∃ missing ∈ flow.dependencies,
      (w.registry r).contains missing = false ∧ createFlow r flow w =
        (.error (.unsatisfiedDependency flow.name (w.registry r).participant missing.name), w) := by
  rw [createFlow_apply]
  cases first : flow.dependencies.find? fun c => !(w.registry r).contains c with
  | some missing =>
    have absent := List.find?_some first
    exact ⟨missing, List.mem_of_find?_eq_some first, by simpa using absent, rfl⟩
  | none =>
    have complete := List.find?_eq_none.mp first c declared
    rw [lacks] at complete
    exact absurd rfl complete

end

/-! ## Names -/

namespace Registry

variable (s : Registry)

theorem capabilityNames_perm : s.capabilityNames.Perm ((s.services.map Prod.fst).map (·.name)) := by
  rw [List.map_map]
  exact List.mergeSort_perm ..

theorem capabilityNames_ascending : s.capabilityNames.Pairwise (· ≤ ·) := by
  have sorted := @List.pairwise_mergeSort String (fun a b => decide (a ≤ b))
    (fun a b c hab hbc => by simpa using String.le_trans (by simpa using hab) (by simpa using hbc))
    (fun a b => by simpa using String.le_total a b) (s.services.map fun s => s.1.name)
  exact sorted.imp fun h => by simpa using h

/-- Names in ascending order are told by how often each occurs. -/
theorem capabilityNames_eq {s t : Registry}
    (same : (s.services.map Prod.fst).Perm (t.services.map Prod.fst)) :
    s.capabilityNames = t.capabilityNames := by
  have perm : s.capabilityNames.Perm t.capabilityNames :=
    s.capabilityNames_perm.trans ((same.map _).trans t.capabilityNames_perm.symm)
  exact perm.eq_of_pairwise (fun a b _ _ => String.le_antisymm) s.capabilityNames_ascending
    t.capabilityNames_ascending

end Registry

open RegistryCall (Inserted AllShun toldBut afterAll)

/-- **Capabilities are told apart** by what they are, not by what they are called. After any
history, whatever calls for one capability are inserted into a row of calls whose flows have nothing
to do with it, the other calls are told the same but for the numbers of the mocks, and the mocks
that were there are the same. However often one capability is registered, no other is there that was
not there before, and a flow that declares it is not built; it is built only if what it declares was
itself registered. The names of a registry are those of its capabilities, one for each, in the
ascending order of their bytes, and any registry with the same capabilities has the same. -/
theorem World.Undergoes.told_apart {ops : List Operation} {w : World}
    (h : ({} : World).Undergoes ops w) :
    (∀ d calls calls', Inserted d calls calls' → AllShun d w calls →
      ∃ σ : Equiv.Perm MockId, (∀ m, w.Has d m → σ m = m) ∧
        toldBut d w calls' = (toldBut d w calls).map fun told => (told.1.rename σ, told.2)) ∧
    (∀ c d, c ≠ d → ∀ calls, (∀ call ∈ calls, RegistryCall.IsFor d call) → ∀ r,
      ((afterAll w calls).registry r).contains c = (w.registry r).contains c ∧
      ∀ {α : Type} (flow : Blueprint α), c ∈ flow.dependencies → (w.registry r).contains c = false →
        ∃ missing ∈ flow.dependencies,
          ((afterAll w calls).registry r).contains missing = false ∧
          Act.createFlow r flow (afterAll w calls) = (.error (.unsatisfiedDependency flow.name
            (w.registry r).participant missing.name), afterAll w calls)) ∧
    (∀ r c ops' v, w.Undergoes ops' v → (w.registry r).contains c = false →
      ∀ {α : Type} (flow : Blueprint α) built, c ∈ flow.dependencies →
        (Act.createFlow r flow v).1 = .ok built → w.Registered r c v) ∧
    ∀ r,
      (∃ types : List Capability, types.Nodup ∧
        (∀ c, c ∈ types ↔ (w.registry r).contains c = true) ∧
        (w.registry r).capabilityNames.Perm (types.map (·.name))) ∧
      (w.registry r).capabilityNames.Pairwise (fun a b => Text.bytes a ≤ Text.bytes b) ∧
      ∀ ops' v, ({} : World).Undergoes ops' v → ∀ r',
        (∀ c, (v.registry r').contains c = (w.registry r).contains c) →
          (v.registry r').capabilityNames = (w.registry r).capabilityNames := by
  have owned := (h.changes.retains .empty).1
  refine ⟨fun d calls calls' inserted shun => ?_, fun c d other calls all r => ?_,
    fun r c ops' v later lacks α flow built declared created => ?_, fun r => ⟨?_, ?_, ?_⟩⟩
  · obtain ⟨σ, agrees, told⟩ := inserted.toldBut_eq (owned.mirrors d) shun
    exact ⟨σ, agrees, told⟩
  · have same := RegistryCall.sameBut_afterAll w all r
    have contains : ((afterAll w calls).registry r).contains c = (w.registry r).contains c := by
      rw [Registry.contains, same.mock? c other, Registry.contains]
    refine ⟨contains, fun flow declared lacks => ?_⟩
    rw [← same.participant]
    exact Act.createFlow_of_lacks declared (contains.trans lacks)
  · cases found : (v.registry r).mock? c with
    | some m => exact later.changes.registered (by simpa [Registry.contains] using lacks) found
    | none =>
      obtain ⟨missing, -, -, refused⟩ := Act.createFlow_of_lacks (r := r) (w := v) declared
        (by rw [Registry.contains, found]; rfl)
      rw [refused] at created
      cases created
  · exact ⟨(w.registry r).services.map Prod.fst, owned.distinct r,
      fun c => Registry.contains_iff.symm, (w.registry r).capabilityNames_perm⟩
  · exact (w.registry r).capabilityNames_ascending.imp Text.bytes_le_iff.mpr
  · intro ops' v h' r' same
    have owned' := (h'.changes.retains .empty).1
    refine Registry.capabilityNames_eq ((List.perm_ext_iff_of_nodup (owned'.distinct r')
      (owned.distinct r)).mpr fun c => ?_)
    rw [← Registry.contains_iff, ← Registry.contains_iff, same]

/-- A service that a test brings, with the name of another. -/
def Capability.twin : Capability := .client "twin" "FlowEngine"

/-- A flow that holds an engine. -/
def holdsEngine : Blueprint MockId := ⟨"F", [.engine], .injecting .engine⟩

/-- An engine is registered, a flow is built, and the registry is closed. -/
def enginesOnly : List RegistryCall :=
  [.register 0 .engine, .create 0 holdsEngine ([·]), .lookUp 0 .engine, .register 0 .messaging]

/-- The same with calls for the twin in between. -/
def enginesBesides : List RegistryCall :=
  [.register 0 .twin, .register 0 .engine, .contains 0 .twin, .create 0 holdsEngine ([·]),
    .lookUp 0 .engine, .lookUp 0 .twin, .register 0 .messaging]

theorem told_apart_twin : ∃ w, ({} : World).Undergoes [.build "Alice" []] w ∧
    (∃ σ : Equiv.Perm MockId, σ 0 = 1 ∧ toldBut .twin w enginesBesides =
      (toldBut .twin w enginesOnly).map fun told => (told.1.rename σ, told.2)) ∧
    (Act.createFlow 0 holdsEngine (afterAll w [.register 0 .twin])).1 =
      .error (.unsatisfiedDependency "F" "Alice" "FlowEngine") := by
  let w := Operation.run {} (.build "Alice" [])
  have undergoes : ({} : World).Undergoes [.build "Alice" []] w := .next trivial .nothing
  obtain ⟨insertions, dependencies, -⟩ := undergoes.told_apart
  have inserted : Inserted .twin enginesOnly enginesBesides :=
    .added rfl (.kept _ (.added rfl (.kept _ (.kept _ (.added rfl (.kept _ .nothing))))))
  have impartial : holdsEngine.constructor.Impartial ([·]) := by
    intro σ
    apply Constructor.Renamed.inject
    intro answer
    cases answer with
    | ok m => exact .built rfl
    | error e => exact .failed e
  have shun : AllShun .twin w enginesOnly := by
    refine ⟨trivial, ⟨by decide, impartial, fun _ deeds last v leads answer registered => ?_⟩,
      trivial, trivial, trivial⟩
    cases leads with
    | here => cases registered
    | asks others =>
      cases others
      cases registered with
      | tail _ rest => cases rest
  obtain ⟨σ, -, told⟩ := insertions .twin enginesOnly enginesBesides inserted shun
  refine ⟨w, undergoes, ⟨σ, ?_, told⟩, ?_⟩
  · have first : some (RegistryReply.mocks [1], false) = some (RegistryReply.mocks [σ 0], false) :=
      congrArg List.head? told
    simpa using first.symm
  · have others : ∀ call ∈ [RegistryCall.register 0 .twin], RegistryCall.IsFor .twin call := by
      intro call mem
      rw [List.mem_singleton.mp mem]
      rfl
    obtain ⟨-, missing⟩ := dependencies .engine .twin (by decide) _ others 0
    obtain ⟨c, declared, -, refused⟩ := missing holdsEngine (by decide) rfl
    rw [refused, List.mem_singleton.mp declared]
    rfl

end Rehearsal
