import Mathlib.Data.List.TakeWhile
import Rehearsal.Proofs.Json.RoundTrip

/-!
# Reading back whole numbers

A whole number of any format is read back from its digits, with its sign if it is negative. Where
the number ends is told by what follows it. Numbers of 64 bits are gathered digit by digit within a
bound that they keep; those of 128 bits are summed up without one.
-/

namespace Rehearsal

/-- A number of a format is one. -/
theorem IntFormat.ofInt?_val {f : IntFormat} (v : f.Value) : f.ofInt? v.val = some v :=
  dif_pos ⟨v.low_le, v.le_high⟩

/-- The numbers of a format of at most 64 bits are signed words or words. -/
theorem IntFormat.Value.word_bounds {f : IntFormat} (u128 : f ≠ .u128) (i128 : f ≠ .i128)
    (v : f.Value) : -9223372036854775808 ≤ v.val ∧ v.val ≤ 18446744073709551615 := by
  obtain ⟨i, low, high⟩ := v
  dsimp only
  cases f with
  | u128 => exact absurd rfl u128
  | i128 => exact absurd rfl i128
  | _ =>
    simp only [IntFormat.low, IntFormat.high] at low high
    omega

namespace Json

variable {rest : List Char} {n : Nat} {i : Int}

/-! ## Digits -/

theorem Stops.takeWhile (stops : Stops rest) : rest.takeWhile Char.isDigit = [] := by
  cases rest with
  | nil => rfl
  | cons c rest => exact List.takeWhile_cons_of_neg (by simp [stops.1])

theorem Stops.dropWhile (stops : Stops rest) : rest.dropWhile Char.isDigit = rest := by
  cases rest with
  | nil => rfl
  | cons c rest => exact List.dropWhile_cons_of_neg (by simp [stops.1])

theorem takeWhile_digits {cs : List Char} (digits : ∀ c ∈ cs, c.isDigit = true)
    (stops : Stops rest) : (cs ++ rest).takeWhile Char.isDigit = cs := by
  rw [List.takeWhile_append_of_pos digits, stops.takeWhile, List.append_nil]

theorem dropWhile_digits {cs : List Char} (digits : ∀ c ∈ cs, c.isDigit = true)
    (stops : Stops rest) : (cs ++ rest).dropWhile Char.isDigit = rest := by
  rw [List.dropWhile_append_of_pos digits, stops.dropWhile]

theorem le_ofDigitChars (n : Nat) (cs : List Char) : n ≤ Nat.ofDigitChars 10 cs n := by
  induction cs generalizing n with
  | nil => exact Nat.le_refl n
  | cons c cs ih =>
    rw [Nat.ofDigitChars_cons]
    exact Nat.le_trans (by omega) (ih _)

theorem ofDigitChars_cons (c : Char) (cs : List Char) (n : Nat) :
    Nat.ofDigitChars 10 (c :: cs) n = Nat.ofDigitChars 10 cs (n * 10 + digitValue c) := by
  rw [Nat.ofDigitChars_cons, Nat.mul_comm]
  rfl

/-- Digits are gathered to the number that they write, if it is within the bound. -/
theorem gather_eq {bound n : Nat} {cs : List Char} (fits : Nat.ofDigitChars 10 cs n ≤ bound) :
    gather bound n cs = (Nat.ofDigitChars 10 cs n, []) := by
  induction cs generalizing n with
  | nil => rfl
  | cons c cs ih =>
    rw [ofDigitChars_cons] at fits ⊢
    rw [gather, if_pos (Nat.le_trans (le_ofDigitChars _ cs) fits), ih fits]

theorem digitsValue_eq (cs : List Char) : digitsValue cs = Nat.ofDigitChars 10 cs 0 := by
  have onwards : ∀ n, cs.foldl (fun n c => n * 10 + digitValue c) n =
      Nat.ofDigitChars 10 cs n := by
    induction cs with
    | nil => exact fun n => rfl
    | cons c cs ih =>
      intro n
      rw [List.foldl_cons, ih, ofDigitChars_cons]
  exact onwards 0

/-- Only zero is written with a leading zero. -/
theorem eq_zero_of_toDigits {cs : List Char} (h : Nat.toDigits 10 n = '0' :: cs) : n = 0 := by
  induction n using Nat.strongRecOn generalizing cs with
  | ind n ih =>
    by_cases small : n < 10
    · rw [Nat.toDigits_of_lt_base small] at h
      have zero := Nat.toNat_digitChar_of_lt_ten small
      rw [(List.cons.inj h).1] at zero
      exact (Nat.add_left_cancel zero).symm
    · -- A longer number starts as its tenth does.
      rw [Nat.toDigits_of_base_le (by decide) (Nat.not_lt.mp small)] at h
      obtain ⟨cs', h'⟩ : ∃ cs', Nat.toDigits 10 (n / 10) = '0' :: cs' := by
        cases hd : Nat.toDigits 10 (n / 10) with
        | nil => exact absurd hd Nat.toDigits_ne_nil
        | cons c cs' =>
          rw [hd] at h
          exact ⟨cs', by rw [(List.cons.inj h).1]⟩
      have tenth : n / 10 = 0 := ih (n / 10) (by omega) h'
      omega

/-- A number is written as a single zero or as digits of which the first is none. -/
theorem toDigits_cases (n : Nat) : n = 0 ∧ Nat.toDigits 10 n = ['0'] ∨
    ∃ c cs, Nat.toDigits 10 n = c :: cs ∧ c ≠ '0' ∧ c.isDigit = true ∧
      ∀ c' ∈ cs, c'.isDigit = true := by
  have digit : ∀ c ∈ Nat.toDigits 10 n, c.isDigit = true := fun c hc =>
    Nat.isDigit_of_mem_toDigits (by decide) (by decide) hc
  cases h : Nat.toDigits 10 n with
  | nil => exact absurd h Nat.toDigits_ne_nil
  | cons c cs =>
    rw [h] at digit
    by_cases zero : c = '0'
    · subst zero
      cases eq_zero_of_toDigits h
      exact .inl ⟨rfl, h ▸ rfl⟩
    · exact .inr ⟨c, cs, rfl, zero, digit c List.mem_cons_self,
        fun c' hc' => digit c' (List.mem_cons_of_mem _ hc')⟩

/-! ## Numerals -/

/-- Where no number goes on, the whole digits are all of it. -/
theorem afterWhole_stops (negative : Bool) (n : Nat) (stops : Stops rest) :
    afterWhole negative n 0 rest =
      if !negative then .ok (.integer n, rest)
      else if 0 < n && n ≤ Nat.pow 2 63 then .ok (.integer (-n), rest)
      else .ok (.float (-Float.ofNat n), rest) := by
  cases rest with
  | nil => rfl
  | cons c rest =>
    obtain ⟨-, point, small, capital⟩ := stops
    unfold afterWhole
    split
    · next h => exact absurd (List.cons.inj h).1 point
    · next h => exact absurd (List.cons.inj h).1 small
    · next h => exact absurd (List.cons.inj h).1 capital
    · rfl

/-- A whole number of 64 bits is read back from its digits. -/
theorem numeral_toDigits (negative : Bool) (fits : n ≤ maxWord) (stops : Stops rest) :
    numeral negative (Nat.toDigits 10 n ++ rest) = afterWhole negative n 0 rest := by
  have gathered : gather maxWord 0 (Nat.toDigits 10 n) = (n, []) := by
    have value : Nat.ofDigitChars 10 (Nat.toDigits 10 n) 0 = n := Nat.ofDigitChars_ten_toDigits
    rw [gather_eq (value.le.trans fits), value]
  rcases toDigits_cases n with ⟨rfl, written⟩ | ⟨c, cs, written, zero, digit, others⟩
  · rw [written]
    cases rest with
    | nil => rfl
    | cons c rest => simp [numeral, stops.1]
  · rw [written] at gathered ⊢
    simp only [List.cons_append, numeral, zero, digit, takeWhile_digits others stops,
      dropWhile_digits others stops, gathered, if_true, if_false, List.length_nil]

/-- A whole number of any size is read back from its digits. -/
theorem wholeDigits_toDigits (n : Nat) (stops : Stops rest) :
    wholeDigits (Nat.toDigits 10 n ++ rest) = .ok (n, rest) := by
  have value : digitsValue (Nat.toDigits 10 n) = n := by
    rw [digitsValue_eq]
    exact Nat.ofDigitChars_ten_toDigits
  rcases toDigits_cases n with ⟨rfl, written⟩ | ⟨c, cs, written, zero, digit, others⟩
  · rw [written]
    cases rest with
    | nil => rfl
    | cons c rest => simp [wholeDigits, stops.1]
  · rw [written] at value ⊢
    simp only [List.cons_append, wholeDigits, zero, digit, takeWhile_digits others stops,
      dropWhile_digits others stops, value, if_true, if_false]

theorem numeral_negative (negative : i < 0) (low : -9223372036854775808 ≤ i)
    (stops : Stops rest) :
    numeral true (Nat.toDigits 10 i.natAbs ++ rest) = .ok (.integer i, rest) := by
  have fits : i.natAbs ≤ maxWord := by
    have word : maxWord = 18446744073709551615 := by decide
    omega
  have signed : (decide (0 < i.natAbs) && decide (i.natAbs ≤ Nat.pow 2 63)) = true := by
    have power : Nat.pow 2 63 = 9223372036854775808 := by decide
    simp only [Bool.and_eq_true, decide_eq_true_eq]
    omega
  have same : -(i.natAbs : Int) = i := by omega
  rw [numeral_toDigits true fits stops, afterWhole_stops true _ stops, if_neg (by decide),
    if_pos signed, same]

theorem numeral_natural (natural : 0 ≤ i) (high : i ≤ 18446744073709551615)
    (stops : Stops rest) :
    numeral false (Nat.toDigits 10 i.natAbs ++ rest) = .ok (.integer i, rest) := by
  have fits : i.natAbs ≤ maxWord := by
    have word : maxWord = 18446744073709551615 := by decide
    omega
  rw [numeral_toDigits false fits stops, afterWhole_stops false _ stops, if_pos (by decide),
    Int.natAbs_of_nonneg natural]

/-! ## Numbers of a format -/

theorem integerText_of_neg (negative : i < 0) :
    integerText i = '-' :: Nat.toDigits 10 i.natAbs := if_pos negative

theorem integerText_of_nonneg (natural : 0 ≤ i) : integerText i = Nat.toDigits 10 i.natAbs :=
  if_neg (Int.not_lt.mpr natural)

/-- A whole number that is not negative starts with a digit. -/
theorem integerText_cons (natural : 0 ≤ i) : ∃ c cs,
    integerText i = c :: cs ∧ c.isDigit = true := by
  rw [integerText_of_nonneg natural]
  rcases toDigits_cases i.natAbs with ⟨-, written⟩ | ⟨c, cs, written, -, digit, -⟩
  · exact ⟨'0', [], written, rfl⟩
  · exact ⟨c, cs, written, digit⟩

theorem ne_of_isDigit {c d : Char} (digit : c.isDigit = true) (other : d.isDigit = false) :
    c ≠ d := by
  rintro rfl
  rw [digit] at other
  cases other

theorem isSpace_of_isDigit {c : Char} (digit : c.isDigit = true) : isSpace c = false := by
  simp [isSpace, ne_of_isDigit digit (d := ' ') rfl, ne_of_isDigit digit (d := '\t') rfl,
    ne_of_isDigit digit (d := '\n') rfl, ne_of_isDigit digit (d := '\r') rfl]

theorem opens_integerText (i : Int) :
    ∃ c others, integerText i = c :: others ∧ isSpace c = false ∧ c ≠ ']' := by
  rcases Int.lt_or_le i 0 with negative | natural
  · exact ⟨'-', _, integerText_of_neg negative, rfl, by decide⟩
  · obtain ⟨c, cs, written, digit⟩ := integerText_cons natural
    exact ⟨c, cs, written, isSpace_of_isDigit digit, ne_of_isDigit digit rfl⟩

theorem Reads.number (expected : String) (low : -9223372036854775808 ≤ i)
    (high : i ≤ 18446744073709551615) : Reads (number expected) (integerText i) (.integer i) where
  opens := opens_integerText i
  read rest stops := by
    rcases Int.lt_or_le i 0 with negative | natural
    · rw [integerText_of_neg negative]
      exact numeral_negative negative low stops
    · have read := numeral_natural natural high stops
      obtain ⟨c, cs, written, digit⟩ := integerText_cons natural
      rw [← integerText_of_nonneg natural, written, List.cons_append] at read
      rw [written, List.cons_append, Json.number, skipSpace_cons (isSpace_of_isDigit digit)]
      dsimp only
      rw [if_neg (ne_of_isDigit digit rfl), if_pos digit, read]

theorem Reads.wordReader {f : IntFormat} (u128 : f ≠ .u128) (i128 : f ≠ .i128) (v : f.Value) :
    Reads (wordReader f) (integerText v.val) v where
  opens := opens_integerText v.val
  read rest stops := by
    obtain ⟨low, high⟩ := v.word_bounds u128 i128
    rw [Json.wordReader, Reader.bind, (Reads.number f.name low high).read rest stops]
    dsimp only
    rw [Numeral.asInteger, Numeral.toJson, asInteger, f.ofInt?_val]
    rfl

theorem Reads.longReader {f : IntFormat} (v : f.Value) :
    Reads (longReader f) (integerText v.val) v where
  opens := opens_integerText v.val
  read rest stops := by
    have digits := wholeDigits_toDigits v.val.natAbs stops
    rcases Int.lt_or_le v.val 0 with negative | natural
    · have signed : f.low ≠ 0 := fun unsigned =>
        absurd (Int.lt_of_le_of_lt v.low_le negative) (by rw [unsigned]; decide)
      have same : -(v.val.natAbs : Int) = v.val := by omega
      rw [integerText_of_neg negative, List.cons_append, Json.longReader,
        skipSpace_cons (by rfl)]
      dsimp only
      split
      · next h => cases h
      · next h =>
        cases h
        rw [if_neg signed, Reader.bind, digits]
        dsimp only
        rw [same, f.ofInt?_val]
        rfl
      · next h => exact absurd rfl (h _)
    · have same : (v.val.natAbs : Int) = v.val := Int.natAbs_of_nonneg natural
      obtain ⟨c, cs, written, digit⟩ := integerText_cons natural
      rw [← integerText_of_nonneg natural, written, List.cons_append] at digits
      rw [written, List.cons_append, Json.longReader, skipSpace_cons (isSpace_of_isDigit digit)]
      dsimp only
      split
      · next h => cases h
      · next h => exact absurd (List.cons.inj h).1 (ne_of_isDigit digit rfl)
      · rw [Reader.bind, digits]
        dsimp only
        rw [same, f.ofInt?_val]
        rfl

/-- **A whole number** of any format is read back. -/
theorem Reads.integer (f : IntFormat) (v : f.Value) :
    Reads (integerReader f) (integerText v.val) v := by
  cases f with
  | u128 | i128 => exact .longReader v
  | _ => exact .wordReader (by decide) (by decide) v

end Json

end Rehearsal
