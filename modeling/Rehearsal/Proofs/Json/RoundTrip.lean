import Rehearsal.Data.Encoding
import Rehearsal.Data.Reading

/-!
# Reading back what was written

A reader reads a text back if it takes the value off the front of it whatever follows, as long as
what follows is no part of a number. Words and strings are read back here, strings whatever
characters they have. A loop of a reader is followed turn by turn: each turn takes a character, so
its fuel never runs out.
-/

namespace Rehearsal.Json

variable {σ α : Type} {turn : σ → Reader (Turn σ α)} {s : σ} {a : α} {cs rest : List Char}

/-! ## Loops -/

/-- The turns of a loop up to its end, each of which takes a character. -/
inductive Loops (turn : σ → Reader (Turn σ α)) : σ → List Char → α → List Char → Prop where
  | done {s : σ} {a : α} {cs rest : List Char} (last : turn s cs = .ok (.done a, rest)) :
    Loops turn s cs a rest
  | again {s s' : σ} {a : α} {cs cs' rest : List Char} (next : turn s cs = .ok (.again s', cs'))
      (taken : cs'.length < cs.length) (others : Loops turn s' cs' a rest) :
    Loops turn s cs a rest

theorem Loops.loopFor_eq (loops : Loops turn s cs a rest) {fuel : Nat} (enough : cs.length < fuel) :
    loopFor turn fuel s cs = .ok (a, rest) := by
  -- There is more fuel than there are characters, and every turn takes a character.
  induction loops generalizing fuel with
  | done last =>
    obtain ⟨fuel, rfl⟩ := Nat.exists_eq_succ_of_ne_zero (Nat.ne_of_gt (Nat.zero_lt_of_lt enough))
    rw [loopFor, last]
  | again next taken _ ih =>
    obtain ⟨fuel, rfl⟩ := Nat.exists_eq_succ_of_ne_zero (Nat.ne_of_gt (Nat.zero_lt_of_lt enough))
    rw [loopFor, next]
    exact ih (by omega)

/-- A loop comes to what its turns come to. -/
theorem Loops.loop_eq (loops : Loops turn s cs a rest) : loop turn s cs = .ok (a, rest) :=
  loops.loopFor_eq (Nat.lt_succ_self _)

/-! ## Texts and what follows them -/

/-- No number goes on with this text. -/
def Stops : List Char → Prop
  | [] => True
  | c :: _ => c.isDigit = false ∧ c ≠ '.' ∧ c ≠ 'e' ∧ c ≠ 'E'

theorem Stops.mark {c : Char} (h : c ∈ [',', ']', '\x7d', '"']) : Stops (c :: rest) := by
  revert c
  simp [Stops]

/-- A reader takes this value off the front of a text that starts like this, and leaves the rest.
The text starts with neither a blank nor a closing bracket. -/
structure Reads (r : Reader α) (cs : List Char) (a : α) : Prop where
  opens : ∃ c others, cs = c :: others ∧ isSpace c = false ∧ c ≠ ']'
  read : ∀ rest, Stops rest → r (cs ++ rest) = .ok (a, rest)

theorem skipSpace_cons {c : Char} (solid : isSpace c = false) (rest : List Char) :
    skipSpace (c :: rest) = c :: rest :=
  List.dropWhile_cons_of_neg (by simp [solid])

namespace Reads

variable {r : Reader α}

theorem map {β : Type} (h : Reads r cs a) (f : α → β) : Reads (r.map f) cs (f a) where
  opens := h.opens
  read rest stops := by rw [Reader.map, Reader.bind, h.read rest stops]

/-- A reader that does not look at what follows. -/
theorem regardless {c : Char} {others : List Char} (solid : isSpace c = false) (apart : c ≠ ']')
    (read : ∀ rest, r (c :: (others ++ rest)) = .ok (a, rest)) : Reads r (c :: others) a where
  opens := ⟨c, others, rfl, solid, apart⟩
  read rest _ := read rest

/-- What a reader reads back is all that it finds in a text with nothing else. -/
theorem whole (h : Reads r cs a) : whole r (String.ofList cs) = .ok a := by
  have read := h.read [] trivial
  rw [List.append_nil] at read
  rw [Json.whole, String.toList_ofList, Reader.bind, read]
  rfl

end Reads

/-! ## Strings -/

theorem hexValue?_digitChar {n : Nat} (h : n < 16) : hexValue? (Nat.digitChar n) = some n := by
  revert n
  decide

theorem utf8Size_digitChar {n : Nat} (h : n < 16) : (Nat.digitChar n).utf8Size = 1 := by
  revert n
  decide

/-- A control is read back from its four digits. -/
theorem unicodeEscape_control {c : Char} (control : c.toNat < 0x20) (rest : List Char) :
    unicodeEscape ('0' :: '0' :: Nat.digitChar (c.toNat / 16) :: Nat.digitChar (c.toNat % 16) ::
      rest) = .ok (c, rest) := by
  have high : c.toNat / 16 < 16 := by omega
  have low : c.toNat % 16 < 16 := by omega
  have unit : ((0 * 16 + 0) * 16 + c.toNat / 16) * 16 + c.toNat % 16 = c.toNat := by omega
  have digits : hexDigits? ('0' :: '0' :: Nat.digitChar (c.toNat / 16) ::
      Nat.digitChar (c.toNat % 16) :: rest) = some (c.toNat, rest) := by
    rw [hexDigits?, show hexValue? '0' = some 0 from rfl, hexValue?_digitChar high,
      hexValue?_digitChar low]
    dsimp only
    rw [unit]
  have bytes : byteLength (('0' :: '0' :: Nat.digitChar (c.toNat / 16) ::
      Nat.digitChar (c.toNat % 16) :: rest).take 4) = 4 := by
    simp [byteLength, utf8Size_digitChar high, utf8Size_digitChar low,
      show '0'.utf8Size = 1 from rfl]
  have read : hexUnit ('0' :: '0' :: Nat.digitChar (c.toNat / 16) ::
      Nat.digitChar (c.toNat % 16) :: rest) = .ok (c.toNat, rest) := by
    rw [hexUnit, bytes, if_neg (Nat.lt_irrefl 4), digits]
  have notLow : (decide (0xdc00 ≤ c.toNat) && decide (c.toNat ≤ 0xdfff)) = false := by
    rw [Bool.and_eq_false_iff]
    exact .inl (by simp; omega)
  have notHigh : (decide (0xd800 ≤ c.toNat) && decide (c.toNat ≤ 0xdbff)) = false := by
    rw [Bool.and_eq_false_iff]
    exact .inl (by simp; omega)
  rw [unicodeEscape, Reader.bind, read]
  dsimp only
  rw [notLow, notHigh, Char.ofNat_toNat]
  rfl

theorem stringTurn_backslash {c : Char} (read : List Char)
    (escaped : escapeTail cs = .ok (c, rest)) :
    stringTurn read ('\\' :: cs) = .ok (.again (c :: read), rest) := by
  rw [stringTurn, if_neg (by decide), if_pos rfl, Reader.map, Reader.bind, escaped]

/-- One character is read back, escaped or not. -/
theorem stringTurn_escape (c : Char) (read rest : List Char) :
    stringTurn read (escape c ++ rest) = .ok (.again (c :: read), rest) := by
  unfold escape
  split
  -- The seven short escapes, and then the controls and all that is written as it is.
  · rfl
  · rfl
  · rfl
  · rfl
  · rfl
  · rfl
  · rfl
  · next quote backslash _ _ _ _ _ =>
    split
    · next control =>
      have escaped : escapeTail ('u' :: '0' :: '0' :: Nat.digitChar (c.toNat / 16) ::
          Nat.digitChar (c.toNat % 16) :: rest) = .ok (c, rest) :=
        unicodeEscape_control control rest
      exact stringTurn_backslash read escaped
    · next plain =>
      show stringTurn read (c :: rest) = _
      rw [stringTurn, if_neg quote, if_neg backslash, if_neg plain]

theorem length_escape_pos (c : Char) : 0 < (escape c).length := by
  unfold escape
  split
  case h_8 => split <;> exact Nat.succ_pos _
  all_goals exact Nat.succ_pos _

theorem loops_string (cs read rest : List Char) :
    Loops stringTurn read (cs.flatMap escape ++ '"' :: rest) (String.ofList (read.reverse ++ cs))
      rest := by
  induction cs generalizing read with
  | nil =>
    rw [List.append_nil]
    exact .done rfl
  | cons c cs ih =>
    rw [List.flatMap_cons, List.append_assoc]
    refine .again (stringTurn_escape c read _) ?_ ?_
    · have taken := length_escape_pos c
      exact Nat.lt_of_lt_of_eq (Nat.lt_add_of_pos_left taken) List.length_append.symm
    · simpa using ih (c :: read)

/-- **A string** is read back as it was written. -/
theorem stringTail_escaped (s : String) (rest : List Char) :
    stringTail (s.toList.flatMap escape ++ '"' :: rest) = .ok (s, rest) := by
  have read := (loops_string s.toList [] rest).loop_eq
  rwa [List.reverse_nil, List.nil_append, String.ofList_toList] at read

theorem stringText_append (s : String) (rest : List Char) :
    stringText s ++ rest = '"' :: (s.toList.flatMap escape ++ '"' :: rest) := by
  simp [stringText]

theorem stringKey_text (s : String) (rest : List Char) :
    stringKey (stringText s ++ rest) = .ok (s, rest) := by
  rw [stringText_append]
  exact stringTail_escaped s rest

end Rehearsal.Json
