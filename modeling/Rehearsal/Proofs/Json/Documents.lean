import Rehearsal.Json.Document
import Rehearsal.Proofs.Json.Enclosed
import Rehearsal.Proofs.Json.Numbers
import Rehearsal.Proofs.Maps

/-!
# Reading back documents

A JSON value that a document can have is read back from its text, if no floating-point number is in
it. The proof is by induction on how deep values may be nested: a level allows the arrays and
objects of which all parts are read back one level further down.
-/

namespace Rehearsal.Json

/-- The values without floating-point numbers that documents can have, with at most so many arrays
and objects around each other. Whole numbers are words, signed or not, and the fields of an object
stand in the order of their names, each name once. -/
inductive Within : Nat → Json → Prop where
  | null {depth : Nat} : Within depth .null
  | bool {depth : Nat} (b : Bool) : Within depth (.bool b)
  | integer {depth : Nat} {i : Int} (low : -9223372036854775808 ≤ i)
      (high : i ≤ 18446744073709551615) : Within depth (.integer i)
  | string {depth : Nat} (s : String) : Within depth (.string s)
  | array {depth : Nat} {items : List Json} (each : ∀ j ∈ items, Within depth j) :
    Within (depth + 1) (.array items)
  | object {depth : Nat} {fields : List (String × Json)}
      (ascending : fields.Pairwise fun f g => f.1 < g.1) (each : ∀ f ∈ fields, Within depth f.2) :
    Within (depth + 1) (.object fields)

namespace Reads

variable {inner : Option (Reader Json)} {r : Reader Json}

/-! ## Values that enclose nothing -/

theorem valueAround_null : Reads (valueAround inner) (chars .null) .null := by
  rw [chars]
  exact regardless rfl (by decide) fun _ => rfl

theorem valueAround_bool (b : Bool) : Reads (valueAround inner) (chars (.bool b)) (.bool b) := by
  cases b <;> rw [chars] <;> exact regardless rfl (by decide) fun _ => rfl

theorem valueAround_integer {i : Int} (low : -9223372036854775808 ≤ i)
    (high : i ≤ 18446744073709551615) :
    Reads (valueAround inner) (chars (.integer i)) (.integer i) where
  opens := by
    rw [chars]
    exact opens_integerText i
  read rest stops := by
    rw [chars]
    rcases Int.lt_or_le i 0 with negative | natural
    · rw [integerText_of_neg negative, List.cons_append]
      show ((numeral true).map Numeral.toJson) (Nat.toDigits 10 i.natAbs ++ rest) = _
      rw [Reader.map, Reader.bind, numeral_negative negative low stops]
      rfl
    · have read := numeral_natural natural high stops
      obtain ⟨c, cs, written, digit⟩ := integerText_cons natural
      rw [← integerText_of_nonneg natural, written, List.cons_append] at read
      rw [written, List.cons_append, valueAround, skipSpace_cons (isSpace_of_isDigit digit)]
      dsimp only
      rw [if_neg (ne_of_isDigit digit rfl), if_neg (ne_of_isDigit digit rfl),
        if_neg (ne_of_isDigit digit rfl), if_neg (ne_of_isDigit digit rfl), if_pos digit,
        Reader.map, Reader.bind, read]
      rfl

theorem valueAround_string (s : String) :
    Reads (valueAround inner) (chars (.string s)) (.string s) where
  opens := (Reads.string "" s).opens
  read rest _ := by
    rw [chars, stringText_append]
    show (stringTail.map Json.string) _ = _
    rw [Reader.map, Reader.bind, stringTail_escaped]

/-! ## Arrays and objects -/

theorem valueAround_array {items : List Json} (each : ∀ j ∈ items, Reads r j.chars j) :
    Reads (valueAround (some r)) (chars (.array items)) (.array items) := by
  have listed : ReadsEach r items items := List.forall₂_same.mpr each
  refine ⟨(Reads.list listed).opens, fun rest stops => ?_⟩
  have read := (Reads.list listed).read rest stops
  rw [chars_array_append] at read ⊢
  show ((listTail r).map Json.array) (itemChars items ++ ']' :: rest) = _
  change listTail r (itemChars items ++ ']' :: rest) = _ at read
  rw [Reader.map, Reader.bind, read]

theorem valueAround_object {fields : List (String × Json)}
    (ascending : fields.Pairwise fun f g => f.1 < g.1)
    (each : ∀ f ∈ fields, Reads r f.2.chars f.2) :
    Reads (valueAround (some r)) (chars (.object fields)) (.object fields) where
  opens := opens_object fields
  read rest _ := by
    have entries : ReadsEntries stringKey r fields fields :=
      List.forall₂_same.mpr fun f hf => ⟨stringKey_text f.1, each f hf⟩
    have fills : Fills stringKey (addField r) fields [] fields := by
      have filled : Fills stringKey (addField r) fields []
          (fields.foldl (fun s f => insertEntry f.1 f.2 s) []) := entries.fills []
      rwa [foldl_insertEntry ascending] at filled
    rw [chars_object_append]
    show ((Json.objectTail stringKey (addField r) []).map Json.object)
      (fieldChars fields ++ '\x7d' :: rest) = _
    rw [Reader.map, Reader.bind, fills.objectTail rest]

end Reads

/-- **A document** without floating-point numbers is read back, if it is not nested too deep. -/
theorem Within.reads {depth : Nat} {j : Json} (within : j.Within depth) :
    Reads (valueWithin depth) j.chars j := by
  -- At each level the values inside are those of the level below.
  induction depth generalizing j with
  | zero =>
    cases within with
    | null => exact .valueAround_null
    | bool b => exact .valueAround_bool b
    | integer low high => exact .valueAround_integer low high
    | string s => exact .valueAround_string s
  | succ depth ih =>
    cases within with
    | null => exact .valueAround_null
    | bool b => exact .valueAround_bool b
    | integer low high => exact .valueAround_integer low high
    | string s => exact .valueAround_string s
    | array each => exact .valueAround_array fun j hj => ih (each j hj)
    | object ascending each =>
      exact .valueAround_object ascending fun f hf => ih (each f hf)

end Rehearsal.Json
