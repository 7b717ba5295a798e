import Mathlib.Algebra.GroupWithZero.Nat

/-!
# The order of bytes

Texts are compared by their characters. Comparing the bytes of their UTF-8 encodings comes to the
same: the first byte of a character tells how many follow, and grows with the character; those that
follow hold the rest of it, the highest digits first.
-/

namespace Rehearsal.Text

theorem ofNat_cons_lt {a b : Nat} (small : b < 256) (h : a < b) (r s : List UInt8) :
    UInt8.ofNat a :: r < UInt8.ofNat b :: s := by
  rw [List.cons_lt_cons_iff, UInt8.lt_iff_toNat_lt, UInt8.toNat_ofNat', UInt8.toNat_ofNat',
    Nat.mod_eq_of_lt small, Nat.mod_eq_of_lt (Nat.lt_trans h small)]
  exact .inl h

/-! ## Characters -/

/-- The bytes after the first: the last digits of a number to the base 64, each marked. -/
def trail (v : Nat) : Nat → List UInt8
  | 0 => []
  | k + 1 => UInt8.ofNat (v / 64 ^ k % 64 + 128) :: trail v k

/-- Of two numbers that agree before their last digits, the smaller one has the smaller digits. -/
theorem trail_lt {v v' k : Nat} (same : v / 64 ^ k = v' / 64 ^ k) (h : v < v') (r s : List UInt8) :
    trail v k ++ r < trail v' k ++ s := by
  induction k with
  | zero =>
    rw [pow_zero, Nat.div_one, Nat.div_one] at same
    exact absurd same (Nat.ne_of_lt h)
  | succ k ih =>
    by_cases digit : v / 64 ^ k = v' / 64 ^ k
    · rw [trail, trail, digit, List.cons_append, List.cons_append, List.cons_lt_cons_iff]
      exact .inr ⟨rfl, ih digit⟩
    · have le : v / 64 ^ k ≤ v' / 64 ^ k := Nat.div_le_div_right (Nat.le_of_lt h)
      rw [pow_succ, ← Nat.div_div_eq_div_mul, ← Nat.div_div_eq_div_mul] at same
      exact ofNat_cons_lt (by omega) (by omega) ..

/-- How many bytes of a character come after the first. -/
def width (v : Nat) : Nat :=
  if v ≤ 127 then 0 else if v ≤ 2047 then 1 else if v ≤ 65535 then 2 else 3

/-- What is added to the first byte, so that it tells how many follow. -/
def mark : Nat → Nat
  | 0 => 0
  | 1 => 192
  | 2 => 224
  | _ => 240

/-- The first byte of a character. -/
def lead (v : Nat) : Nat := v / 64 ^ width v + mark (width v)

theorem width_cases (v : Nat) : (v ≤ 127 ∧ width v = 0 ∧ lead v = v) ∨
    (128 ≤ v ∧ v ≤ 2047 ∧ width v = 1 ∧ lead v = v / 64 + 192) ∨
    (2048 ≤ v ∧ v ≤ 65535 ∧ width v = 2 ∧ lead v = v / 4096 + 224) ∨
    (65536 ≤ v ∧ width v = 3 ∧ lead v = v / 262144 + 240) := by
  unfold lead width
  split
  · simp [mark, *]
  · split
    · simp [mark]
      omega
    · split
      · simp [mark]
        omega
      · simp [mark]
        omega

theorem lead_lt {v : Nat} (h : v < 1114112) : lead v < 256 := by
  rcases width_cases v with small | two | three | four <;> omega

theorem toNat_val_lt (c : Char) : c.val.toNat < 1114112 := by
  rcases c.valid with h | h <;> omega

theorem utf8EncodeChar_eq (c : Char) : String.utf8EncodeChar c =
    UInt8.ofNat (lead c.val.toNat) :: trail c.val.toNat (width c.val.toNat) := by
  have last := toNat_val_lt c
  unfold String.utf8EncodeChar
  dsimp only
  generalize c.val.toNat = v at *
  rcases width_cases v with ⟨most, width, lead⟩ | ⟨least, most, width, lead⟩ |
    ⟨least, most, width, lead⟩ | ⟨least, width, lead⟩
  · rw [width, lead, if_pos most]
    rfl
  · rw [width, lead, if_neg (by omega), if_pos most, Nat.mod_eq_of_lt (by omega : v / 64 < 32)]
    simp [trail]
  · rw [width, lead, if_neg (by omega), if_neg (by omega), if_pos most,
      Nat.mod_eq_of_lt (by omega : v / 4096 < 16)]
    simp [trail]
  · rw [width, lead, if_neg (by omega), if_neg (by omega), if_neg (by omega),
      Nat.mod_eq_of_lt (by omega : v / 262144 < 8)]
    simp [trail]

/-- Either the first byte of a character is smaller than that of a greater one, or both characters
agree before the digits that follow, which are as many. -/
theorem lead_lt_or {v v' : Nat} (h : v < v') : lead v < lead v' ∨
    lead v = lead v' ∧ width v = width v' ∧ v / 64 ^ width v = v' / 64 ^ width v' := by
  have first : lead v < lead v' ∨ lead v = lead v' ∧ width v = width v' := by
    rcases width_cases v with one | two | three | four <;>
      rcases width_cases v' with one' | two' | three' | four' <;> omega
  refine first.imp_right fun ⟨same, wide⟩ => ⟨same, wide, ?_⟩
  rw [lead, lead, wide] at same
  rw [wide]
  exact Nat.add_right_cancel same

/-- A smaller character has smaller bytes, whatever comes after it. -/
theorem utf8EncodeChar_lt {c d : Char} (h : c < d) (r s : List UInt8) :
    String.utf8EncodeChar c ++ r < String.utf8EncodeChar d ++ s := by
  have below : c.val.toNat < d.val.toNat := h
  rw [utf8EncodeChar_eq, utf8EncodeChar_eq, List.cons_append, List.cons_append]
  rcases lead_lt_or below with first | ⟨first, same, before⟩
  · exact ofNat_cons_lt (lead_lt (toNat_val_lt d)) first ..
  · rw [first, List.cons_lt_cons_iff]
    rw [same] at before ⊢
    exact .inr ⟨rfl, trail_lt before below ..⟩

/-! ## Texts -/

/-- The bytes of a text. -/
def bytes (s : String) : List UInt8 := s.toUTF8.data.toList

theorem bytes_eq (s : String) : bytes s = s.toList.flatMap String.utf8EncodeChar := by
  show s.toByteArray.data.toList = _
  rw [← String.utf8Encode_toList, List.utf8Encode]
  simp

theorem flatMap_utf8EncodeChar_lt {cs ds : List Char} (h : cs < ds) :
    cs.flatMap String.utf8EncodeChar < ds.flatMap String.utf8EncodeChar := by
  induction cs generalizing ds with
  | nil =>
    cases ds with
    | nil => exact absurd h (List.not_lt_nil _)
    | cons d ds =>
      rw [List.flatMap_cons, utf8EncodeChar_eq]
      exact List.nil_lt_cons _ _
  | cons c cs ih =>
    cases ds with
    | nil => exact absurd h (List.not_lt_nil _)
    | cons d ds =>
      rw [List.flatMap_cons, List.flatMap_cons]
      rcases List.cons_lt_cons_iff.mp h with smaller | ⟨rfl, rest⟩
      · exact utf8EncodeChar_lt smaller ..
      · exact List.append_left_lt (ih rest)

theorem bytes_lt {a b : String} (h : a < b) : bytes a < bytes b := by
  rw [bytes_eq, bytes_eq]
  exact flatMap_utf8EncodeChar_lt (String.lt_iff.mp h)

/-- **Texts are in the order of their bytes.** -/
theorem bytes_le_iff {a b : String} : bytes a ≤ bytes b ↔ a ≤ b := by
  constructor
  · intro h
    rw [← String.not_lt]
    intro greater
    exact h (bytes_lt greater)
  · intro h greater
    by_cases smaller : a < b
    · exact List.lt_asymm (bytes_lt smaller) greater
    · have same : a = b := String.le_antisymm h (String.not_lt.mp smaller)
      rw [same] at greater
      exact List.lt_irrefl _ greater

end Rehearsal.Text
