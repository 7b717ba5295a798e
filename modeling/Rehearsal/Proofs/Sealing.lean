import Rehearsal.Proofs.World.Enlistments
import Rehearsal.Proofs.World.Mocks

/-!
# Sealing

A registry is open until the first flow is built from it, and sealed from then on. While a
constructor runs, the registry that it registers on is as it was before: open for the first flow,
sealed for all later ones. So whatever is done to a registry either leaves its seal alone or is a
flow that is built from it, and a sealed registry never changes again.
-/

namespace Rehearsal

/-- The registry that an event says was sealed. -/
def Event.seals? : Event → Option RegistryId
  | registrySealed r _ => some r
  | _ => none

namespace Operation

/-- The flow that an operation builds from a registry, if it builds one. -/
def builds (a : RegistryId) (w : World) : Operation → List String
  | create r flow => if r = a ∧ (Act.createFlow r flow w).1.isOk then [flow.name] else []
  | _ => []

end Operation

namespace World

variable {w w' w'' : World} {a r : RegistryId} {op : Operation} {ops : List Operation}

/-- What the log tells of a registry that was sealed. -/
def sealings (w : World) (a : RegistryId) : List Event :=
  w.log.filter fun e => e.seals? = some a

theorem sealings_append {events : List Event} (log : w'.log = w.log ++ events) :
    w'.sealings a = w.sealings a ++ events.filter fun e => e.seals? = some a := by
  rw [sealings, log, List.filter_append, ← sealings]

/-! ## What leaves a seal alone -/

/-- From one world to the other a registry was not sealed, and if it is sealed, it is the same. -/
structure Spares (a : RegistryId) (w w' : World) : Prop where
  isSealed : (w'.registry a).isSealed = (w.registry a).isSealed
  frozen : (w.registry a).isSealed = true → w'.registry a = w.registry a
  sealings : w'.sealings a = w.sealings a

namespace Spares

theorem refl (w : World) : w.Spares a w := ⟨rfl, fun _ => rfl, rfl⟩

theorem trans (h : Spares a w w') (h' : Spares a w' w'') : Spares a w w'' where
  isSealed := h'.isSealed.trans h.isSealed
  frozen closed := (h'.frozen (h.isSealed.trans closed)).trans (h.frozen closed)
  sealings := h'.sealings.trans h.sealings

/-- The registry is the same, and the log tells of other things. -/
theorem of_same (events : List Event) (registry : w'.registry a = w.registry a)
    (log : w'.log = w.log ++ events) (others : ∀ e ∈ events, e.seals? ≠ some a) :
    Spares a w w' := by
  refine ⟨by rw [registry], fun _ => registry, ?_⟩
  rw [sealings_append log, List.filter_eq_nil_iff.mpr (by simpa using others), List.append_nil]

/-- Neither registries nor the log changed. -/
theorem of_unlogged (registries : w'.registries = w.registries) (log : w'.log = w.log) :
    Spares a w w' :=
  of_same [] (congrArg (·.get a) registries) (by simp [log]) (by simp)

theorem note {e : Event} (he : e.seals? ≠ some a) (w : World) : Spares a w (w.note e) :=
  of_same [e] rfl rfl (by simpa using he)

end Spares

theorem spares_addService (w : World) (r : RegistryId) (c : Capability)
    (isOpen : (w.registry r).isSealed = false) : Spares a w (w.addService r c).2 := by
  obtain ⟨participant, log⟩ : ∃ participant, (w.addService r c).2.log =
      w.log ++ [.capabilityRegistered r participant c] := ⟨_, rfl⟩
  have registry : (w.addService r c).2.registry a = _ := registry_set rfl a
  by_cases here : a = r
  · subst here
    rw [if_pos rfl] at registry
    refine ⟨by rw [registry]; rfl, fun closed => ?_, ?_⟩
    · rw [isOpen] at closed
      cases closed
    · rw [sealings_append log]
      simp [Event.seals?]
  · rw [if_neg here] at registry
    exact .of_same _ registry log (by simp [Event.seals?])

theorem spares_attachTo (w : World) (r : RegistryId) (s : Session) :
    Spares a w (w.attachTo r s) := by
  obtain ⟨messagings, events, attached, same, -⟩ := attachTo_eq w r s
  rw [same]
  refine .of_same _ rfl rfl fun e he => ?_
  rcases attached e he with rfl | rfl <;> simp [Event.seals?]

end World

/-! ## Actions that seal nothing -/

namespace Act

open World (Spares)

variable {α β : Type} {a : RegistryId}

theorem spares_register (r : RegistryId) (c : Capability) : Keeps (Spares a) (register r c) := by
  intro w
  rw [register_apply]
  cases (w.registry r).mock? c with
  | some m => exact .refl w
  | none =>
    cases isOpen : (w.registry r).isSealed with
    | true => exact .refl w
    | false => exact World.spares_addService w r c isOpen

/-- An open registry takes every capability. -/
theorem register_of_isOpen {w : World} (isOpen : (w.registry a).isSealed = false)
    (c : Capability) : ∃ m, (register a c w).1 = .ok m ∧
      ((register a c w).2.registry a).mock? c = some m := by
  rw [register_apply, isOpen]
  cases found : (w.registry a).mock? c with
  | some m => exact ⟨m, rfl, found⟩
  | none => exact ⟨_, rfl, World.mock?_addService found⟩

/-- While a constructor runs, no registry is sealed. -/
theorem spares_construct (flow : String) (declared : List Capability) (r : RegistryId)
    (c : Constructor α) : Keeps (Spares a) (construct flow declared r c) := by
  induction c with
  | built flow => exact keeps_pure .refl flow
  | failed e => exact keeps_throw .refl e
  | register c next ih =>
    exact keeps_bind (R := Spares a) (fun _ _ _ => Spares.trans)
      (keeps_attempt (spares_register r c)) ih
  | inject c next ih =>
    refine keeps_bind (R := Spares a) (fun _ _ _ => Spares.trans) (keeps_attempt fun w => ?_) ih
    rw [inject_apply]
    exact .refl w

theorem spares_linkRegistries (r r' : RegistryId) : Keeps (Spares a) (linkRegistries r r') := by
  intro w
  rw [linkRegistries_apply]
  cases w.memberOf r with
  | error e => exact .refl w
  | ok own =>
    cases w.memberOf r' with
    | error e => exact .refl w
    | ok peer =>
      have linked : Spares a w (w.addLink own peer).2 :=
        .of_same [_] rfl rfl (by simp [Event.seals?])
      exact (linked.trans (World.spares_attachTo _ r _)).trans (World.spares_attachTo _ r' _)

end Act

namespace World

variable {w w' : World} {a r : RegistryId} {op : Operation} {ops : List Operation}

/-! ## Registries to come -/

/-- Registries that were not made yet are open. -/
def Untouched (w : World) : Prop := ∀ a, w.registryCount ≤ a → (w.registry a).isSealed = false

theorem Change.untouched (change : w.Change w') (h : w.Untouched) : w'.Untouched := by
  intro a later
  have ahead := Nat.le_trans change.registryCount_le later
  have before : (w.registry a).isSealed = false := h a ahead
  have apart : ∀ {r}, r < w.registryCount → a ≠ r := fun known =>
    Nat.ne_of_gt (Nat.lt_of_lt_of_le known ahead)
  cases change.enlists with
  | nothing registries => rwa [registry, registries]
  | built participant capabilities _ registries =>
    rw [registry_set registries]
    split
    · rfl
    · exact before
  | registered r c known _ _ registries =>
    rw [registry_set registries, if_neg (apart known)]
    exact before
  | closed r known registries =>
    rw [registry_set registries, if_neg (apart known)]
    exact before

theorem Changes.untouched (changes : w.Changes w') (h : w.Untouched) : w'.Untouched := by
  induction changes with
  | refl => exact h
  | tail _ change ih => exact change.untouched ih

/-! ## What an operation does to a seal -/

/-- A flow was built from a registry: it is sealed now, and if it was sealed before, it is the
same. -/
structure Closes (a : RegistryId) (w w' : World) : Prop where
  isSealed : (w'.registry a).isSealed = true
  frozen : (w.registry a).isSealed = true → w'.registry a = w.registry a
  sealings : w'.sealings a = w.sealings a ++
    if (w.registry a).isSealed then [] else [.registrySealed a (w'.registry a).participant]

theorem closes_sealRegistry (w : World) (a : RegistryId) : Closes a w (w.sealRegistry a) := by
  cases closed : (w.registry a).isSealed with
  | true =>
    have same : w.sealRegistry a = w := by simp [sealRegistry, closed]
    rw [same]
    exact ⟨closed, fun _ => rfl, by simp [closed]⟩
  | false =>
    have same : w.sealRegistry a = World.note
        { w with registries := w.registries.set a { w.registry a with isSealed := true } }
        (.registrySealed a (w.registry a).participant) := by simp [sealRegistry, closed]
    have registry : (w.sealRegistry a).registry a = { w.registry a with isSealed := true } := by
      rw [same]
      exact Store.get_set_self ..
    refine ⟨by rw [registry], fun again => by simp [closed] at again, ?_⟩
    rw [registry, closed, same, sealings_append rfl]
    simp [sealings, Event.seals?]

theorem spares_sealRegistry (w : World) (apart : r ≠ a) : Spares a w (w.sealRegistry r) := by
  unfold sealRegistry
  dsimp only
  split
  · exact .refl w
  · refine .of_same [.registrySealed r _] ?_ rfl (by simpa [Event.seals?] using apart)
    exact Store.get_set_of_ne _ _ apart.symm

/-- What comes before a flow is built leaves the seal alone. -/
theorem Closes.after (h : Closes a w' w'') (before : Spares a w w') : Closes a w w'' where
  isSealed := h.isSealed
  frozen closed := (h.frozen (before.isSealed.trans closed)).trans (before.frozen closed)
  sealings := by rw [h.sealings, before.sealings, before.isSealed]

theorem Closes.before (h : Closes a w w') (after : Spares a w' w'') : Closes a w w'' where
  isSealed := after.isSealed.trans h.isSealed
  frozen closed := (after.frozen h.isSealed).trans (h.frozen closed)
  sealings := by rw [after.sealings, h.sealings, after.frozen h.isSealed]

/-- Only the first flow seals. -/
theorem Closes.trans (h : Closes a w w') (h' : Closes a w' w'') : Closes a w w'' where
  isSealed := h'.isSealed
  frozen closed := (h'.frozen h.isSealed).trans (h.frozen closed)
  sealings := by rw [h'.sealings, h.sealings, h.isSealed, h'.frozen h.isSealed]; simp

/-- Building a flow from a registry closes that registry, if it succeeds, and nothing else does. -/
theorem seal_createFlow {α : Type} (r : RegistryId) (flow : Blueprint α) (w : World) :
    if r = a ∧ (Act.createFlow r flow w).1.isOk then Closes a w (Act.createFlow r flow w).2
    else Spares a w (Act.createFlow r flow w).2 := by
  rw [Act.createFlow_apply]
  cases flow.dependencies.find? fun c => !(w.registry r).contains c with
  | some missing => simpa [Except.isOk, Except.toBool] using Spares.refl w
  | none =>
    have constructed := Act.spares_construct (a := a) flow.name flow.dependencies r
      flow.constructor w
    dsimp only
    revert constructed
    rcases Act.construct flow.name flow.dependencies r flow.constructor w with ⟨e | built, w'⟩
    · intro constructed
      simpa [Except.isOk, Except.toBool] using constructed
    · intro constructed
      have noted := Spares.note (a := a) (e := .flowInstantiated flow.name
        (w.registry r).participant flow.dependencies.length) (by simp [Event.seals?])
        (w'.sealRegistry r)
      by_cases here : r = a
      · subst here
        simpa [Except.isOk, Except.toBool] using
          ((closes_sealRegistry w' r).after constructed).before noted
      · simpa [here] using (constructed.trans (spares_sealRegistry w' here)).trans noted

theorem spares_build (untouched : w.Untouched) (participant : String)
    (capabilities : List Capability) :
    Spares a w (Act.buildRegistry participant capabilities w).2 := by
  obtain ⟨count, log⟩ : ∃ count, (Act.buildRegistry participant capabilities w).2.log =
      w.log ++ [.registryCreated w.registryCount participant count] :=
    ⟨_, congrArg (World.log ·.2) (Act.buildRegistry_apply participant capabilities w)⟩
  have registry : (Act.buildRegistry participant capabilities w).2.registry a = _ :=
    registry_set (congrArg (World.registries ·.2) (Act.buildRegistry_apply _ _ w)) a
  by_cases new : a = w.registryCount
  · rw [if_pos new] at registry
    have before := untouched a (Nat.le_of_eq new.symm)
    refine ⟨by rw [registry, before], fun closed => ?_, ?_⟩
    · rw [before] at closed
      cases closed
    · rw [sealings_append log]
      simp [Event.seals?]
  · rw [if_neg new] at registry
    exact .of_same _ registry log (by simp [Event.seals?])

theorem spares_lookFor (w : World) (me : Waiter) (s : Session) :
    Spares a w (w.lookFor me s).2 := by
  unfold lookFor
  dsimp only
  split
  · exact .of_same [_] rfl rfl (by simp [Event.seals?])
  · exact .of_unlogged rfl rfl

theorem spares_call (w : World) (h : op.CallsMock) : Spares a w (op.run w) := by
  obtain ⟨_, _, _, _, same⟩ := Operation.run_of_callsMock w h
  rw [same]
  exact .of_unlogged rfl rfl

/-- **Every operation** either leaves the seal of a registry alone or builds a flow from it. -/
theorem seal_run (untouched : w.Untouched) (applies : op.Applies w) :
    if op.builds a w = [] then Spares a w (op.run w) else Closes a w (op.run w) := by
  cases op with
  | create r flow =>
    have sealing := seal_createFlow (a := a) r flow w
    by_cases built : r = a ∧ (Act.createFlow r flow w).1.isOk
    · simpa [Operation.builds, Operation.run, built] using sealing
    · simpa [Operation.builds, Operation.run, built] using sealing
  | build participant capabilities => exact spares_build untouched participant capabilities
  | register r c => exact Act.spares_register r c w
  | linkMembers => exact Spares.of_same [_] rfl rfl (by simp [Event.seals?])
  | linkRegistries r r' => exact Act.spares_linkRegistries r r' w
  | check l =>
    show Spares a w (Act.failIfPending l w).2
    rw [Act.failIfPending_apply]
    split
    · exact .refl w
    · exact .note (by simp [Event.seals?]) w
  | setNodeName | setSubFlow | subFlow | initiate | format | parse | persist =>
    exact spares_call w (by trivial)
  | answer | withdraw | ready => exact Spares.of_unlogged rfl rfl
  | send => exact Spares.of_same [_] rfl rfl (by simp [Event.seals?])
  | await s expected =>
    show Spares a w (w.awaitMessage s expected)
    unfold awaitMessage
    split
    · exact .note (by simp [Event.seals?]) w
    · exact .refl w
  | look me s => exact spares_lookFor w me s
  | note e => exact Spares.note (by cases e <;> first | exact applies.elim | simp [Event.seals?]) w

/-! ## Histories -/

/-- What a row of operations comes to for the seal of a registry. -/
theorem Undergoes.seal (h : w.Undergoes ops w') (untouched : w.Untouched) :
    if w.told (Operation.builds a) ops = [] then Spares a w w' else Closes a w w' := by
  induction h with
  | nothing => exact .refl _
  | @next w w' op ops applies _ ih =>
    have first := seal_run (a := a) untouched applies
    have others := ih ((Operation.changes applies).untouched untouched)
    rw [told]
    by_cases none : op.builds a w = []
    · rw [if_pos none] at first
      rw [none, List.nil_append]
      split
      · next later =>
        rw [if_pos later] at others
        exact first.trans others
      · next later =>
        rw [if_neg later] at others
        exact others.after first
    · rw [if_neg none] at first
      rw [if_neg (by simp [none])]
      split at others
      · exact first.before others
      · exact first.trans others

theorem Untouched.empty : ({} : World).Untouched := fun _ _ => rfl

/-- **Sealing.** After any history, a registry is sealed just when some flow was built from it. Then
nothing that is done later changes the registry: what it has is still handed out to whoever
registers it, and nothing new is registered; until then it takes every capability. The log tells
once that a registry was sealed, and does so as the first flow is built from it; while that flow's
constructor runs, the registry is still open. -/
theorem Undergoes.sealing_law (h : ({} : World).Undergoes ops w) (a : RegistryId) :
    ((w.registry a).isSealed = true ↔ ({} : World).told (Operation.builds a) ops ≠ []) ∧
    ((w.registry a).isSealed = true →
      (∀ ops' w', w.Undergoes ops' w' → w'.registry a = w.registry a) ∧
      ∀ c, Act.register a c w = match (w.registry a).mock? c with
        | some m => (.ok m, w)
        | none => (.error (.registrySealed (w.registry a).participant c.name), w)) ∧
    ((w.registry a).isSealed = false → ∀ c, ∃ m, (Act.register a c w).1 = .ok m ∧
      ((Act.register a c w).2.registry a).mock? c = some m) ∧
    w.sealings a = (if (w.registry a).isSealed
      then [.registrySealed a (w.registry a).participant] else []) ∧
    (∀ op : Operation, op.Applies w → (op.run w).sealings a = w.sealings a ++
      if op.builds a w ≠ [] ∧ ({} : World).told (Operation.builds a) ops = []
      then [.registrySealed a ((op.run w).registry a).participant] else []) ∧
    ∀ {α : Type} flow declared (r : RegistryId) (c : Constructor α),
      ((Act.construct flow declared r c w).2.registry a).isSealed = (w.registry a).isSealed := by
  have untouched := h.changes.untouched .empty
  have since := h.seal (a := a) .empty
  have isSealed : (w.registry a).isSealed = true ↔
      ({} : World).told (Operation.builds a) ops ≠ [] := by
    by_cases none : ({} : World).told (Operation.builds a) ops = []
    · rw [if_pos none] at since
      rw [since.isSealed]
      simp [none, registry, default]
    · rw [if_neg none] at since
      simp [none, since.isSealed]
  refine ⟨isSealed, fun closed => ⟨fun ops' w' h' => ?_, fun c => ?_⟩,
    fun isOpen => Act.register_of_isOpen isOpen, ?_, fun op applies => ?_,
    fun flow declared r c => (Act.spares_construct flow declared r c w).isSealed⟩
  · have later := h'.seal (a := a) untouched
    split at later
    · exact later.frozen closed
    · exact later.frozen closed
  · rw [Act.register_apply, closed]
    rfl
  · split at since
    · rw [since.sealings, since.isSealed]
      rfl
    · rw [since.sealings, since.isSealed]
      rfl
  · have next := seal_run (a := a) untouched applies
    by_cases none : op.builds a w = []
    · rw [if_pos none] at next
      simpa [none] using next.sealings
    · rw [if_neg none] at next
      rw [next.sealings]
      cases closed : (w.registry a).isSealed with
      | true => simp [isSealed.mp closed]
      | false =>
        have first : ({} : World).told (Operation.builds a) ops = [] := by
          by_contra some
          rw [isSealed.mpr some] at closed
          cases closed
        simp [none, first]

/-- A registry from which two flows are built, after a first one whose constructor registers and
then fails. -/
def sealedTwice : List Operation :=
  let failing : Blueprint Unit :=
    ⟨"F", [.engine], .register .messaging fun _ => .failed (.flowFailed "no")⟩
  let first : Blueprint Unit := ⟨"G", [.messaging], .register .marshalling fun _ => .built ()⟩
  let second : Blueprint Unit := ⟨"H", [], .register .persistence fun _ => .built ()⟩
  [.build "Alice" [.engine], .create 0 failing, .create 0 first, .create 0 second,
    .register 0 .persistence]

theorem sealing_law_twice : ∃ w, ({} : World).Undergoes sealedTwice w ∧
    ({} : World).told (Operation.builds 0) sealedTwice = ["G", "H"] ∧
    (w.registry 0).isSealed = true ∧
    (w.registry 0).services.map Prod.fst = [.engine, .messaging, .marshalling] ∧
    w.sealings 0 = [.registrySealed 0 "Alice"] ∧
    Act.register 0 .persistence w = (.error (.registrySealed "Alice" "Persistence"), w) := by
  have undergoes : ({} : World).Undergoes sealedTwice _ :=
    .next trivial (.next Nat.one_pos (.next Nat.one_pos (.next Nat.one_pos (.next Nat.one_pos
      .nothing))))
  have built : ({} : World).told (Operation.builds 0) sealedTwice = ["G", "H"] := by rfl
  obtain ⟨isSealed, closed, -, once, -⟩ := undergoes.sealing_law 0
  have here := isSealed.mpr (by simp [built])
  refine ⟨_, undergoes, built, here, by rfl, ?_, ?_⟩
  · rw [once, if_pos here]
    rfl
  · exact (closed here).2 .persistence

end World

end Rehearsal
