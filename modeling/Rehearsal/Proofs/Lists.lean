import Mathlib.Algebra.GroupWithZero.Nat
import Mathlib.Data.List.Nodup

/-!
# Lists

Facts about look-up tables, about replacing one entry of a list and about reading entries one after
the other that the library does not have in this form.
-/

namespace Rehearsal

variable {α β : Type}

/-- What is found under a key stands in the table under that key. -/
theorem mem_of_lookup [BEq α] [LawfulBEq α] {l : List (α × β)} {k : α} {b : β}
    (h : l.lookup k = some b) : (k, b) ∈ l := by
  obtain ⟨before, after, rfl, -⟩ := List.lookup_eq_some_iff.mp h
  simp

/-- Under different keys, whatever stands in the table is found. -/
theorem lookup_of_mem [BEq α] [LawfulBEq α] {l : List (α × β)} {k : α} {b : β}
    (distinct : (l.map Prod.fst).Nodup) (h : (k, b) ∈ l) : l.lookup k = some b := by
  induction l with
  | nil => cases h
  | cons entry l ih =>
    obtain ⟨k', b'⟩ := entry
    obtain ⟨new, distinct⟩ := List.nodup_cons.mp distinct
    rcases List.mem_cons.mp h with same | there
    · cases same
      exact List.lookup_cons_self
    · have apart : (k == k') = false := by
        refine beq_eq_false_iff_ne.mpr ?_
        rintro rfl
        exact new (List.mem_map.mpr ⟨(k, b), there, rfl⟩)
      rw [List.lookup_cons, apart]
      exact ih distinct there

/-- Something is found under the keys of a table. -/
theorem isSome_lookup_iff [BEq α] [LawfulBEq α] {l : List (α × β)} {k : α} :
    (l.lookup k).isSome ↔ k ∈ l.map Prod.fst := by
  rw [Option.isSome_iff_exists, List.mem_map]
  constructor
  · rintro ⟨b, found⟩
    exact ⟨(k, b), mem_of_lookup found, rfl⟩
  · rintro ⟨⟨k, b⟩, there, rfl⟩
    cases found : l.lookup k with
    | some b' => exact ⟨b', rfl⟩
    | none =>
      have apart := List.lookup_eq_none_iff.mp found (k, b) there
      simp at apart

/-- An entry that comes last is kept if it is new. -/
theorem eraseDups_concat [BEq α] [LawfulBEq α] (l : List α) (a : α) [Decidable (a ∈ l)] :
    (l ++ [a]).eraseDups = if a ∈ l then l.eraseDups else l.eraseDups ++ [a] := by
  rw [List.eraseDups_append, List.removeAll]
  by_cases there : a ∈ l
  · simp [there]
  · simp [there, List.eraseDups_cons]

/-- Of several equal entries one is kept. -/
theorem nodup_eraseDups [BEq α] [LawfulBEq α] (l : List α) : l.eraseDups.Nodup := by
  match l with
  | [] => exact List.nodup_nil
  | a :: l =>
    rw [List.eraseDups_cons, List.nodup_cons]
    refine ⟨fun mem => ?_, nodup_eraseDups _⟩
    rw [List.mem_eraseDups, List.mem_filter] at mem
    simp at mem
termination_by l.length
decreasing_by exact Nat.lt_succ_of_le (List.length_filter_le _ _)

/-- Entries that are numbered have different numbers. -/
theorem nodup_zipIdx (l : List α) : (l.zipIdx.map Prod.snd).Nodup := by
  rw [List.zipIdx_map_snd]
  exact List.nodup_range'

/-- Replacing one entry changes a sum by what it changes there. -/
theorem sum_map_set {l : List α} {i : Nat} {a : α} (h : l[i]? = some a) (b : α) (f : α → Nat) :
    ((l.set i b).map f).sum + f a = (l.map f).sum + f b := by
  induction l generalizing i with
  | nil => simp at h
  | cons c l ih =>
    cases i with
    | zero =>
      cases h
      simp only [List.set_cons_zero, List.map_cons, List.sum_cons]
      omega
    | succ i =>
      have rest := ih (by simpa using h)
      simp only [List.set_cons_succ, List.map_cons, List.sum_cons]
      omega

/-- Replacing one entry by one that holds more adds that to what all entries hold. -/
theorem perm_flatMap_set {l : List α} {i : Nat} {a b : α} {f : α → List β} {more : List β}
    (h : l[i]? = some a) (grown : f b = f a ++ more) :
    ((l.set i b).flatMap f).Perm (l.flatMap f ++ more) := by
  induction l generalizing i with
  | nil => simp at h
  | cons c l ih =>
    cases i with
    | zero =>
      cases h
      rw [List.set_cons_zero, List.flatMap_cons, List.flatMap_cons, grown, List.append_assoc,
        List.append_assoc]
      exact List.perm_append_comm.append_left _
    | succ i =>
      rw [List.set_cons_succ, List.flatMap_cons, List.flatMap_cons, List.append_assoc]
      exact (ih (by simpa using h)).append_left _

/-- Entries that are read back one by one are read back together. -/
theorem mapM_map_ok {ε : Type} {write : α → β} {read : β → Except ε α}
    (back : ∀ a, read (write a) = .ok a) (l : List α) : (l.map write).mapM read = .ok l := by
  have each : read ∘ write = fun a => pure (id a) := funext back
  rw [List.mapM_map, each, List.mapM_pure, List.map_id]
  rfl

end Rehearsal
