import Rehearsal.Data.Decoding
import Rehearsal.Data.Encoding
import Rehearsal.Proofs.Chat.Records
import Rehearsal.Proofs.Json.Numbers
import Rehearsal.Proofs.Lists
import Rehearsal.Proofs.Maps

/-!
# Reading back what was encoded

Whatever JSON a value is kept as, the value is what that JSON is decoded to, kind by kind: a map is
rebuilt from its entries in their order, and a number that is the name of a field is read from its
digits. Only a number that is none, or infinite, is not: `null` is kept in its place.
-/

namespace Rehearsal

/-- A map whose entries are read back one by one is read back. -/
theorem entries_back {κ β : Type} [LE κ] [LT κ] [DecidableLT κ] [DecidableEq κ]
    [Std.LawfulOrderLT κ] [Std.IsLinearOrder κ] {write : κ × β → String × Json}
    {read : String × Json → Except Json.Fault (κ × β)} (back : ∀ e, read (write e) = .ok e)
    (m : OrderedMap κ β) :
    (do
      let entries ← (m.entries.map write).mapM read
      return OrderedMap.ofList entries) = Except.ok m := by
  rw [mapM_map_ok back]
  exact congrArg Except.ok m.ofList_entries

/-! ## Numbers as names of fields -/

namespace Json

/-- **A number that is the name of a field** is read back from the name. -/
theorem asNumericKey_text (i : IntFormat.i64.Value) :
    asNumericKey .i64 (String.ofList (integerText i.val)) = .ok i := by
  have nothing : Stops [] := trivial
  unfold asNumericKey
  rw [String.toList_ofList]
  rcases Int.lt_or_le i.val 0 with negative | natural
  · have read := numeral_negative negative i.low_le nothing
    rw [List.append_nil] at read
    simp [integerText_of_neg negative, read, IntFormat.ofInt?_val]
  · have read := numeral_natural natural (Int.le_trans i.le_high (by decide)) nothing
    rw [List.append_nil, ← integerText_of_nonneg natural] at read
    obtain ⟨c, cs, written, digit⟩ := integerText_cons natural
    rw [written] at read ⊢
    simp [digit, ne_of_isDigit digit (d := '-') rfl, read, IntFormat.ofInt?_val]

end Json

/-! ## Kinds -/

namespace Kind

/-- Whether values of a kind can be read back. A text that is only lent and texts by pairs of
numbers can only be written. -/
def isReadBack : Kind → Bool
  | lentText => false
  | pairLabels => false
  | _ => true

theorem asText_string (s : String) : (Json.string s).asText = .ok s := rfl

theorem asInteger_integer {f : IntFormat} (i : f.Value) :
    (Json.integer i.val).asInteger f = .ok i := by
  rw [Json.asInteger, f.ofInt?_val]

/-- **Round trip.** A value is what its JSON is decoded to. -/
theorem decode_encode {k : Kind} (readBack : k.isReadBack) (notFloat : k ≠ .float) {v : k.Value}
    {j : Json} (encoded : k.encode v = .ok j) : k.decode j = .ok v := by
  cases k with
  | float => exact absurd rfl notFloat
  | lentText | pairLabels => cases readBack
  | integer f =>
    cases encoded
    exact asInteger_integer v
  | char =>
    cases encoded
    simp [decode]
  | integers =>
    cases encoded
    exact mapM_map_ok asInteger_integer v
  | texts =>
    cases encoded
    exact mapM_map_ok asText_string v
  | optionalText =>
    cases v with
    | none => cases encoded; rfl
    | some s => cases encoded; rfl
  | pair =>
    obtain ⟨i, s⟩ := v
    cases encoded
    rw [decode, asInteger_integer]
    rfl
  | tally =>
    cases encoded
    refine entries_back (fun e => ?_) v
    dsimp only
    rw [asInteger_integer]
    rfl
  | labels =>
    cases encoded
    refine entries_back (fun e => ?_) v
    dsimp only
    rw [Json.asNumericKey_text]
    rfl
  | chatDirection =>
    cases encoded
    cases v <;> rfl
  | chatRecord =>
    cases encoded
    exact Chat.Record.ofJson_toJson v
  | bool | unit | text | json | chatRequest | chatMessage =>
    cases encoded
    rfl

end Kind

end Rehearsal
