import Mathlib.Data.List.Forall2
import Rehearsal.Proofs.Data.RoundTrip
import Rehearsal.Proofs.World.Mocks

/-!
# What a store keeps

A store holds what was persisted in it and nothing else: for each payload that could be persisted
its JSON under its kind, in the order in which they came. So the payloads of one kind are counted
and read back no matter what the others are, and only a number that JSON cannot hold is not read
back as it was.
-/

namespace Rehearsal

namespace Payload

/-- The values of a kind among payloads, in their order. -/
def valuesOf (k : Kind) (ps : List Payload) : List k.Value :=
  ps.filterMap (·.downcast? k)

@[simp] theorem valuesOf_cons_self {k : Kind} (v : k.Value) (ps : List Payload) :
    valuesOf k (⟨k, v⟩ :: ps) = v :: valuesOf k ps := by
  simp [valuesOf, downcast?]

theorem valuesOf_cons_of_ne {k : Kind} {p : Payload} (other : p.kind ≠ k) (ps : List Payload) :
    valuesOf k (p :: ps) = valuesOf k ps := by
  simp [valuesOf, downcast?, other]

theorem length_valuesOf (k : Kind) (ps : List Payload) :
    (valuesOf k ps).length = ps.countP (·.kind = k) := by
  induction ps with
  | nil => rfl
  | cons p ps ih =>
    by_cases here : p.kind = k
    · subst here
      rw [show p = ⟨p.kind, p.value⟩ from rfl, valuesOf_cons_self, List.length_cons, ih]
      simp
    · rw [valuesOf_cons_of_ne here, ih, List.countP_cons_of_neg (by simpa using here)]

/-- Whether a store can keep a value: a whole number that needs more than 64 bits has no JSON value,
and neither have texts by pairs of numbers, unless there are none. -/
def IsStorable : Payload → Prop
  | ⟨.integer _, i⟩ => Persistence.holds (.integer i.val) = true
  | ⟨.pairLabels, entries⟩ => entries = []
  | ⟨.json, j⟩ => Persistence.holds j = true
  | _ => True

end Payload

namespace Persistence

variable {store : Persistence} {kept : List Payload} {p : Payload} {j : Json} {k : Kind}

theorem stored_eq_ok : stored p = .ok j ↔ p.kind.encode p.value = .ok j ∧ holds j = true := by
  unfold stored
  cases p.kind.encode p.value with
  | error fault => exact ⟨(nomatch ·), fun h => (nomatch h.1)⟩
  | ok j' =>
    show (if holds j' = true then .ok j' else .error .numberOutOfRange : Except Json.Fault Json) =
      .ok j ↔ _
    constructor
    · intro h
      split at h
      · next fits =>
        cases h
        exact ⟨rfl, fits⟩
      · cases h
    · rintro ⟨same, fits⟩
      cases same
      rw [if_pos fits]

/-- Only numbers beyond 64 bits and texts by pairs of numbers are not stored. -/
theorem stored_iff : (∃ j, stored p = .ok j) ↔ p.IsStorable := by
  obtain ⟨k, v⟩ := p
  simp only [stored_eq_ok]
  cases k with
  | integer f => simp [Kind.encode, Payload.IsStorable]
  | json => simp [Kind.encode, Payload.IsStorable]
  | float =>
    refine iff_of_true ⟨_, rfl, ?_⟩ trivial
    split <;> rfl
  | pairLabels =>
    cases v with
    | nil => exact iff_of_true ⟨_, rfl, rfl⟩ rfl
    | cons => exact iff_of_false (fun ⟨_, encoded, _⟩ => nomatch encoded) (List.cons_ne_nil _ _)
  | optionalText => cases v <;> exact iff_of_true ⟨_, rfl, rfl⟩ trivial
  | _ => exact iff_of_true ⟨_, rfl, rfl⟩ trivial

/-- A store keeps these payloads: each as its JSON under its kind, in this order. -/
def Keeps (store : Persistence) (kept : List Payload) : Prop :=
  List.Forall₂ (fun p e => e.1 = p.kind ∧ stored p = .ok e.2) kept store.entities

theorem Keeps.empty : ({} : Persistence).Keeps [] := .nil

theorem Keeps.add (h : store.Keeps kept) (stored : stored p = .ok j) :
    (store.add p.kind j).Keeps (kept ++ [p]) :=
  List.rel_append h (.cons ⟨rfl, stored⟩ .nil)

theorem Keeps.isEmpty (h : store.Keeps kept) : store.isEmpty = true ↔ kept = [] := by
  rw [Persistence.isEmpty, List.isEmpty_iff, ← List.length_eq_zero_iff, ← h.length_eq,
    List.length_eq_zero_iff]

/-- What a store keeps under a kind is the JSON of the values of that kind. -/
theorem Keeps.ofKind (h : store.Keeps kept) (k : Kind) :
    List.Forall₂ (fun v j => k.encode v = .ok j) (Payload.valuesOf k kept) (store.ofKind k) := by
  unfold Keeps at h
  unfold Persistence.ofKind
  generalize store.entities = entities at h ⊢
  induction h with
  | nil => exact .nil
  | @cons p e kept entities first _ ih =>
    obtain ⟨k', v⟩ := p
    obtain ⟨k'', j⟩ := e
    obtain ⟨rfl, stored⟩ := first
    by_cases here : k'' = k
    · subst here
      rw [Payload.valuesOf_cons_self, List.filter_cons_of_pos (by simp), List.map_cons]
      exact .cons ((stored_eq_ok.mp stored).1) ih
    · -- What is of another kind is passed over on both sides.
      rw [Payload.valuesOf_cons_of_ne here, List.filter_cons_of_neg (by simpa using here)]
      exact ih

theorem Keeps.count (h : store.Keeps kept) (k : Kind) :
    store.count k = kept.countP (·.kind = k) := by
  rw [Persistence.count, ← (h.ofKind k).length_eq, Payload.length_valuesOf]

/-- Finding all values of a kind comes to reading them one by one. -/
theorem Keeps.findAll_eq (h : store.Keeps kept) {back : k.Value → Except Json.Fault k.Value}
    (reads : ∀ v j, k.encode v = .ok j → k.decode j = back v) :
    store.findAll k = (Payload.valuesOf k kept).mapM back := by
  have each := h.ofKind k
  rw [Persistence.findAll]
  generalize Payload.valuesOf k kept = values at each ⊢
  generalize store.ofKind k = js at each ⊢
  induction each with
  | nil => rfl
  | cons first _ ih => rw [List.mapM_cons, List.mapM_cons, reads _ _ first, ih]

theorem Keeps.findAll (h : store.Keeps kept) (readBack : k.isReadBack) (notFloat : k ≠ .float) :
    store.findAll k = .ok (Payload.valuesOf k kept) := by
  rw [h.findAll_eq fun _ _ => Kind.decode_encode readBack notFloat]
  exact (List.mapM_pure (f := id)).trans (congrArg Except.ok (List.map_id _))

/-- Floating-point numbers are found as long as JSON can hold all of them. -/
theorem Keeps.findAll_float (h : store.Keeps kept) : store.findAll .float =
    if (Payload.valuesOf .float kept).all Float.isFinite then .ok (Payload.valuesOf .float kept)
    else .error (.invalidType .null "f64") := by
  have reads : ∀ (x : Float) j, Kind.float.encode x = .ok j → Kind.float.decode j =
      if x.isFinite then .ok x else .error (.invalidType .null "f64") := by
    intro x j encoded
    cases encoded
    split <;> rfl
  rw [h.findAll_eq reads]
  induction Payload.valuesOf .float kept with
  | nil => rfl
  | cons x xs ih =>
    -- The first number that is not finite ends the search.
    rw [List.mapM_cons, List.all_cons, ih]
    cases x.isFinite with
    | false => rfl
    | true => cases xs.all Float.isFinite <;> rfl

end Persistence

/-! ## Histories -/

/-- Persisting succeeds for what a store can keep, and changes nothing for anything else. -/
theorem Act.persist_spec (m : MockId) (p : Payload) (w : World) :
    ((Act.persist m p w).1 = .ok () ↔ p.IsStorable) ∧
      ∀ e, (Act.persist m p w).1 = .error e → (Act.persist m p w).2 = w := by
  rw [Act.persist_apply, ← Persistence.stored_iff]
  cases Persistence.stored p with
  | ok j => exact ⟨iff_of_true rfl ⟨j, rfl⟩, fun _ failed => nomatch failed⟩
  | error fault => exact ⟨⟨(nomatch ·), fun ⟨_, stored⟩ => nomatch stored⟩, fun _ _ => rfl⟩

namespace Operation

/-- The payloads that an operation leaves in a store: the one that is persisted there, unless that
fails. -/
def keeps (m : MockId) (w : World) : Operation → List Payload
  | persist m' p =>
    if m' = m then
      match (Act.persist m' p w).1 with
      | .ok () => [p]
      | .error _ => []
    else []
  | _ => []

/-- What one operation does to a store. -/
theorem keeps_run {w : World} {m : MockId} {kept : List Payload}
    (h : (w.persistences.get m).Keeps kept) (op : Operation) :
    ((op.run w).persistences.get m).Keeps (kept ++ op.keeps m w) := by
  cases op with
  | persist m' p =>
    rw [run_persist, keeps, Act.persist_apply]
    cases stored : Persistence.stored p with
    | error fault => simpa [Error.ofFault] using h
    | ok j =>
      by_cases here : m' = m
      · subst here
        simpa [Error.ofFault, Store.modify] using h.add stored
      · simpa [Error.ofFault, Store.modify, here, Store.get_set_of_ne _ _ (Ne.symm here)] using h
  | _ =>
    rw [persistences_run w fun _ _ same => by cases same]
    simpa [keeps] using h

end Operation

namespace World

variable {w w' : World} {m : MockId} {held : List Payload} {ops : List Operation}

/-- A store keeps along a history what the operations leave there. -/
theorem Undergoes.stores (h : w.Undergoes ops w') (before : (w.persistences.get m).Keeps held) :
    (w'.persistences.get m).Keeps (held ++ w.told (Operation.keeps m) ops) := by
  induction h generalizing held with
  | nothing => simpa [told] using before
  | next _ _ ih => simpa [told] using ih (Operation.keeps_run before _)

/-- The payloads that a history leaves in a store, in their order. -/
def kept (ops : List Operation) (m : MockId) : List Payload :=
  ({} : World).told (Operation.keeps m) ops

/-- **Store law.** After any history, persisting in a store succeeds for what it can keep and
changes nothing for anything else; the values of a kind are counted and found, as they were
persisted and in that order, whatever was persisted under other kinds; and the store is empty if and
only if nothing was persisted there. Floating-point numbers are found only if all of them are
finite, and counted even if not. Kinds that can only be written are counted too, but there is
nothing to find. -/
theorem Undergoes.store_law (h : ({} : World).Undergoes ops w) (m : MockId) :
    (∀ p, ((Act.persist m p w).1 = .ok () ↔ p.IsStorable) ∧
      ∀ e, (Act.persist m p w).1 = .error e → (Act.persist m p w).2 = w) ∧
    (∀ k, (w.persistences.get m).count k = (kept ops m).countP (·.kind = k)) ∧
    (∀ k : Kind, k.isReadBack → k ≠ .float →
      Act.findAll m k w = (.ok (Payload.valuesOf k (kept ops m)), w)) ∧
    (Act.findAll m .float w =
      (if (Payload.valuesOf .float (kept ops m)).all Float.isFinite
        then .ok (Payload.valuesOf .float (kept ops m))
        else .error (.serialization { fault := .invalidType .null "f64" }), w)) ∧
    ((w.persistences.get m).isEmpty = true ↔ kept ops m = []) := by
  have keeps : (w.persistences.get m).Keeps (kept ops m) := h.stores .empty
  refine ⟨fun p => Act.persist_spec m p w, keeps.count, fun k readBack notFloat => ?_, ?_,
    keeps.isEmpty⟩
  · rw [Act.findAll, ask_apply, keeps.findAll readBack notFloat]
    rfl
  · rw [Act.findAll, ask_apply, keeps.findAll_float]
    split <;> rfl

/-- Two stores. In the first, values of different kinds have the same JSON, and a number of 128 bits
is refused. -/
def storedAlike : List Operation :=
  [.persist 0 ⟨.integer .u64, 1, by decide, by decide⟩,
    .persist 0 ⟨.integer .i64, 1, by decide, by decide⟩, .persist 0 ⟨.unit, ()⟩,
    .persist 0 ⟨.optionalText, none⟩, .persist 1 ⟨.unit, ()⟩,
    .persist 0 ⟨.integer .u128, IntFormat.u128.high, by decide, by decide⟩,
    .persist 0 ⟨.labels, .ofList [(⟨-1, by decide, by decide⟩, "last")]⟩, .persist 0 ⟨.unit, ()⟩]

theorem store_law_alike : ∃ w, ({} : World).Undergoes storedAlike w ∧
    (kept storedAlike 0).map Payload.kind =
      [.integer .u64, .integer .i64, .unit, .optionalText, .labels, .unit] ∧
    (w.persistences.get 0).count .unit = 2 ∧
    Act.findAll 0 .unit w = (.ok [(), ()], w) ∧
    Act.findAll 0 .optionalText w = (.ok [none], w) ∧
    Act.findAll 0 .labels w = (.ok [.ofList [(⟨-1, by decide, by decide⟩, "last")]], w) ∧
    Act.findAll 0 .texts w = (.ok [], w) ∧
    (w.persistences.get 0).isEmpty = false := by
  have undergoes : ({} : World).Undergoes storedAlike _ :=
    .next trivial (.next trivial (.next trivial (.next trivial (.next trivial (.next trivial
      (.next trivial (.next trivial .nothing)))))))
  obtain ⟨-, count, found, -, isEmpty⟩ := undergoes.store_law 0
  refine ⟨_, undergoes, by rfl, ?_, ?_, ?_, ?_, ?_, ?_⟩
  · rw [count]
    rfl
  · rw [found .unit rfl (by decide)]
    rfl
  · rw [found .optionalText rfl (by decide)]
    rfl
  · rw [found .labels rfl (by decide)]
    rfl
  · rw [found .texts rfl (by decide)]
    rfl
  · rw [Bool.eq_false_iff, ne_eq, isEmpty]
    exact List.cons_ne_nil _ _

end World

end Rehearsal
