import Mathlib.Data.List.DropRight
import Mathlib.Data.List.TakeWhile
import Rehearsal.Text.Blank

/-!
# Trimmed texts

What trimming leaves has no blank at either end, so trimming it again changes nothing, and every
character of it was there before. Neither blanks around a text nor its case change what is left.
-/

namespace Rehearsal.Text

variable {c : Char} {cs : List Char}

theorem trimRight_eq_rdropWhile (cs : List Char) : trimRight cs = cs.rdropWhile isBlank := rfl

theorem mem_of_mem_trim (h : c ∈ trim cs) : c ∈ cs := by
  have left := (List.rdropWhile_prefix isBlank (cs.dropWhile isBlank)).mem h
  exact (List.dropWhile_sublist isBlank).mem left

/-- Trimming at the end takes no blank from the front that the other end needs. -/
theorem dropWhile_trim (cs : List Char) : (trim cs).dropWhile isBlank = trim cs := by
  obtain ⟨blanks, front⟩ := List.rdropWhile_prefix isBlank (cs.dropWhile isBlank)
  change trim cs ++ blanks = cs.dropWhile isBlank at front
  cases h : trim cs with
  | nil => rfl
  | cons c rest =>
    -- The first character is the one that the scan from the left stopped at.
    have stopped := List.head?_dropWhile_not isBlank cs
    rw [← front, h] at stopped
    exact List.dropWhile_cons_of_neg (Bool.not_eq_true _ ▸ stopped)

/-- What was trimmed is trimmed. -/
@[simp] theorem trim_trim (cs : List Char) : trim (trim cs) = trim cs := by
  rw [trim, dropWhile_trim, trimRight_eq_rdropWhile, trim, trimRight_eq_rdropWhile,
    List.rdropWhile_idempotent]

/-- What is trimmed off are blanks at both ends. -/
theorem exists_pad (cs : List Char) : ∃ left right, (∀ c ∈ left, isBlank c) ∧
    (∀ c ∈ right, isBlank c) ∧ cs = left ++ trim cs ++ right := by
  refine ⟨cs.takeWhile isBlank, (cs.dropWhile isBlank).rtakeWhile isBlank,
    fun c => List.mem_takeWhile_imp, fun c => List.mem_rtakeWhile_imp, ?_⟩
  rw [trim, trimRight_eq_rdropWhile, List.append_assoc, List.rdropWhile_append_rtakeWhile,
    List.takeWhile_append_dropWhile]

/-- Where nothing is blank, nothing is trimmed off. -/
theorem trim_of_visible (visible : ∀ c ∈ cs, isBlank c = false) : trim cs = cs := by
  have first : cs.dropWhile isBlank = cs :=
    List.dropWhile_eq_self_iff.mpr fun filled => by simp [visible _ (List.getElem_mem filled)]
  rw [trim, trimRight_eq_rdropWhile, first, List.rdropWhile_eq_self_iff]
  exact fun filled => by simp [visible _ (List.getLast_mem filled)]

/-! ## What trimming does not see -/

/-- Blanks around a text are trimmed off. -/
theorem trim_pad {left right : List Char} (hl : ∀ c ∈ left, isBlank c) (hr : ∀ c ∈ right, isBlank c)
    (cs : List Char) : trim (left ++ cs ++ right) = trim cs := by
  rw [trim, List.append_assoc, List.dropWhile_append_of_pos hl, List.dropWhile_append]
  split
  · next blank =>
    have nothing : cs.dropWhile isBlank = [] := List.isEmpty_iff.mp blank
    rw [List.dropWhile_eq_nil_iff.mpr hr, trim, nothing]
  · rw [trim, trimRight, trimRight, List.reverse_append,
      List.dropWhile_append_of_pos fun c hc => hr c (List.mem_reverse.mp hc)]

/-- Upper-casing changes lower-case letters alone, into upper-case ones. -/
theorem toUpper_cases (c : Char) : c.toUpper = c ∨
    0x61 ≤ c.toNat ∧ c.toNat ≤ 0x7a ∧ c.toUpper.toNat = c.toNat - 0x20 := by
  unfold Char.toUpper
  split
  · next letter =>
    have low : 0x61 ≤ c.val.toNat := UInt32.le_iff_toNat_le.mp letter.1
    have high : c.val.toNat ≤ 0x7a := UInt32.le_iff_toNat_le.mp letter.2
    refine .inr ⟨low, high, ?_⟩
    -- The difference of the two cases is negative, so it wraps around.
    show (c.val + ('A'.val - 'a'.val)).toNat = c.val.toNat - 0x20
    rw [UInt32.toNat_add, show ('A'.val - 'a'.val).toNat = 0xffffffe0 from rfl]
    omega
  · exact .inl rfl

/-- No visible ASCII character is blank. -/
theorem isBlank_eq_false (low : 0x21 ≤ c.toNat) (high : c.toNat < 0x7f) : isBlank c = false := by
  simp only [isBlank, Bool.or_eq_false_iff, Bool.and_eq_false_iff, decide_eq_false_iff_not,
    beq_eq_false_iff_ne]
  omega

@[simp] theorem isBlank_toUpper (c : Char) : isBlank c.toUpper = isBlank c := by
  rcases toUpper_cases c with same | ⟨low, high, moved⟩
  · rw [same]
  · rw [isBlank_eq_false (by omega) (by omega), isBlank_eq_false (by omega) (by omega)]

/-- A text is trimmed alike in upper case. -/
theorem trim_map_toUpper (cs : List Char) :
    trim (cs.map Char.toUpper) = (trim cs).map Char.toUpper := by
  have same : isBlank ∘ Char.toUpper = isBlank := funext isBlank_toUpper
  rw [trim, trimRight, List.dropWhile_map, same, ← List.map_reverse, List.dropWhile_map, same,
    ← List.map_reverse]
  rfl

end Rehearsal.Text
