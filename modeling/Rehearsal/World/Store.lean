/-!
# Stores of cells

Cells found by a key. A cell that nobody has written holds the default, so that looking never fails
and a thing that was never touched is in its first state.
-/

namespace Rehearsal

/-- Cells found by a key. -/
structure Store (κ α : Type) where
  cells : List (κ × α) := []

namespace Store

variable {κ α : Type} [DecidableEq κ]

/-- What a cell holds. -/
def get [Inhabited α] (s : Store κ α) (k : κ) : α := (s.cells.lookup k).getD default

/-- Writes a cell. -/
def set (s : Store κ α) (k : κ) (a : α) : Store κ α :=
  ⟨(k, a) :: s.cells.filter fun cell => cell.1 != k⟩

/-- Changes what a cell holds. -/
def modify [Inhabited α] (s : Store κ α) (k : κ) (f : α → α) : Store κ α := s.set k (f (s.get k))

theorem lookup_filter_ne (cells : List (κ × α)) {k k' : κ} (h : k' ≠ k) :
    (cells.filter fun cell => cell.1 != k).lookup k' = cells.lookup k' := by
  induction cells with
  | nil => rfl
  | cons cell rest ih =>
    obtain ⟨key, a⟩ := cell
    by_cases hk : key = k
    · have hb : (k' == key) = false := by simpa [hk] using h
      simp [ih, hk, List.lookup_cons, hk ▸ hb]
    · simp [hk, ih, List.lookup_cons]

variable [Inhabited α]

@[simp] theorem get_set_self (s : Store κ α) (k : κ) (a : α) : (s.set k a).get k = a := by
  simp [get, set]

@[simp] theorem get_set_of_ne (s : Store κ α) {k k' : κ} (a : α) (h : k' ≠ k) :
    (s.set k a).get k' = s.get k' := by
  have hb : (k' == k) = false := by simpa using h
  simp [get, set, List.lookup_cons, hb, lookup_filter_ne s.cells h]

theorem get_modify (s : Store κ α) (k k' : κ) (f : α → α) :
    (s.modify k f).get k' = if k' = k then f (s.get k') else s.get k' := by
  by_cases same : k' = k
  · subst same
    simp [modify]
  · simp [modify, same]

@[simp] theorem get_empty (k : κ) : ({} : Store κ α).get k = default := rfl

end Store

end Rehearsal
