import Rehearsal.Flow.Request
import Rehearsal.Proofs.Data.RoundTrip
import Rehearsal.Proofs.Json.Contents
import Rehearsal.Proofs.World.Outcomes

/-!
# Requests

A value that a request holds is read back as it was, kind by kind, from the text that the body of
the request is. A key that is a number is written between quotes and needs no escape. Only doubles
are not always read back, and what can only be written.
-/

namespace Rehearsal

namespace Json

/-! ## Numbers as keys -/

theorem escape_of_isDigit {c : Char} (digit : c.isDigit = true) : escape c = [c] := by
  have other : ∀ d : Char, d.isDigit = false → c ≠ d := fun d => ne_of_isDigit digit
  have printed : ¬ c.toNat < 0x20 := by
    have bounds : 48 ≤ c.toNat := by
      simp only [Char.isDigit, Bool.and_eq_true, decide_eq_true_eq] at digit
      exact digit.1
    omega
  unfold escape
  split
  case h_8 => rw [if_neg printed]
  all_goals exact absurd rfl (other _ rfl)

theorem stringText_integerText (i : Int) (rest : List Char) :
    stringText (String.ofList (integerText i)) ++ rest = '"' :: (integerText i ++ '"' :: rest) := by
  have plain : (integerText i).flatMap escape = integerText i := by
    have digits : (Nat.toDigits 10 i.natAbs).flatMap escape = Nat.toDigits 10 i.natAbs := by
      rw [List.flatMap_congr fun c hc =>
        escape_of_isDigit (Nat.isDigit_of_mem_toDigits (by decide) (by decide) hc)]
      exact List.flatMap_singleton' _
    rcases Int.lt_or_le i 0 with negative | natural
    · rw [integerText_of_neg negative, List.flatMap_cons, digits]
      rfl
    · rw [integerText_of_nonneg natural, digits]
  rw [stringText_append, String.toList_ofList, plain]

/-- A key that is a number is read back. -/
theorem numericKey_text (i : IntFormat.i64.Value) (rest : List Char) :
    numericKey .i64 (stringText (String.ofList (integerText i.val)) ++ rest) = .ok (i, rest) := by
  have reads := Reads.wordReader (by decide) (by decide) i
  have read := reads.read ('"' :: rest) (.mark (by simp))
  have starts : ∃ c others, integerText i.val = c :: others ∧ (c == '-' || c.isDigit) = true := by
    rcases Int.lt_or_le i.val 0 with negative | natural
    · exact ⟨'-', _, integerText_of_neg negative, rfl⟩
    · obtain ⟨c, cs, written, digit⟩ := integerText_cons natural
      exact ⟨c, cs, written, by simp [digit]⟩
  obtain ⟨c, others, written, start⟩ := starts
  rw [written, List.cons_append] at read
  rw [stringText_integerText, written, List.cons_append, numericKey, List.drop_one, List.tail_cons]
  dsimp only
  rw [if_pos start, Reader.bind, read]
  rfl

end Json

namespace Kind

open Json (Reads ReadsEach ReadsEntries)

/-! ## Kinds -/

theorem reads_bool (b : Bool) : Reads Json.boolReader (Json.chars (.bool b)) b := by
  cases b <;> rw [Json.chars] <;> exact .regardless rfl (by decide) fun _ => rfl

theorem reads_unit : Reads Json.unitReader (Json.chars .null) () := by
  rw [Json.chars]
  exact .regardless rfl (by decide) fun _ => rfl

theorem reads_char (c : Char) :
    Reads Json.charReader (Json.chars (.string (String.ofList [c]))) c where
  opens := (Reads.string "" _).opens
  read rest stops := by
    rw [Json.charReader, Json.Reader.bind, (Reads.string "a character" _).read rest stops]
    simp [Json.settle]

theorem reads_optional (s : Option String) {j : Json} (encoded : optionalText.encode s = .ok j) :
    Reads (Json.optionalReader (Json.textReader "a string")) j.chars s := by
  cases s with
  | none =>
    cases encoded
    rw [Json.chars]
    exact .regardless rfl (by decide) fun _ => rfl
  | some s =>
    cases encoded
    have reads := (Reads.string "a string" s).map some
    refine ⟨reads.opens, fun rest stops => ?_⟩
    have read := reads.read rest stops
    rw [Json.chars, Json.stringText_append] at read ⊢
    exact read

theorem reads_integer (f : IntFormat) (i : f.Value) :
    Reads (Json.integerReader f) (Json.chars (.integer i.val)) i := by
  rw [Json.chars]
  exact .integer f i

/-- Values that are read back one by one are read back as the items of an array. -/
theorem reads_list {α : Type} {item : Json.Reader α} {write : α → Json}
    (each : ∀ a, Reads item (write a).chars a) (as : List α) :
    Reads (Json.listReader item) (Json.chars (.array (as.map write))) as :=
  .list (List.forall₂_map_left_iff.mpr (List.forall₂_same.mpr fun a _ => each a))

/-- A map is read back if each of its keys and values is. -/
theorem reads_map {κ β : Type} [LE κ] [LT κ] [DecidableLT κ] [DecidableEq κ]
    [Std.LawfulOrderLT κ] [Std.IsLinearOrder κ] {key : Json.Reader κ} {item : Json.Reader β}
    {name : κ → String} {write : β → Json}
    (keyed : ∀ k rest, key (Json.stringText (name k) ++ rest) = .ok (k, rest))
    (each : ∀ b, Reads item (write b).chars b) (m : OrderedMap κ β) :
    Reads (Json.mapReader key item .empty .insert)
      (Json.chars (.object (m.entries.map fun e => (name e.1, write e.2)))) m := by
  have entries : ReadsEntries key item (m.entries.map fun e => (name e.1, write e.2)) m.entries :=
    List.forall₂_map_left_iff.mpr (List.forall₂_same.mpr fun e _ => ⟨keyed e.1, each e.2⟩)
  have rebuilt : m.entries.foldl (fun s e => s.insert e.1 e.2) OrderedMap.empty = m :=
    m.ofList_entries
  have reads : Reads (Json.mapReader key item OrderedMap.empty OrderedMap.insert) _
      (m.entries.foldl (fun s e => s.insert e.1 e.2) OrderedMap.empty) :=
    Reads.map_entries entries OrderedMap.empty
  rwa [rebuilt] at reads

end Kind

/-- Payloads whose values are read back: those of all kinds that can be read, doubles apart, and as
JSON values those that documents can have. -/
def Payload.IsReadBack : Payload → Prop
  | ⟨.json, j⟩ => j.Within Json.maxDepth
  | ⟨k, _⟩ => k.isReadBack ∧ k ≠ .float

open Json (Reads) in
/-- **Every readable value** is read back from its JSON text. -/
theorem Payload.reads {k : Kind} {v : k.Value} (readBack : IsReadBack ⟨k, v⟩) {j : Json}
    (encoded : k.encode v = .ok j) : Reads k.reader j.chars v := by
  cases k with
  | float => exact absurd rfl readBack.2
  | lentText | pairLabels => cases readBack.1
  | optionalText => exact Kind.reads_optional v encoded
  | integer f =>
    cases encoded
    exact Kind.reads_integer f v
  | bool =>
    cases encoded
    exact Kind.reads_bool v
  | char =>
    cases encoded
    exact Kind.reads_char v
  | unit =>
    cases encoded
    exact Kind.reads_unit
  | text =>
    cases encoded
    exact .string _ v
  | integers =>
    cases encoded
    exact Kind.reads_list (Kind.reads_integer .i64) v
  | texts =>
    cases encoded
    exact Kind.reads_list (.string _) v
  | pair =>
    cases encoded
    exact .pair (Kind.reads_integer .i64 v.1) (.string _ v.2)
  | tally =>
    cases encoded
    exact Kind.reads_map Json.stringKey_text (Kind.reads_integer .i64) v
  | labels =>
    cases encoded
    exact Kind.reads_map Json.numericKey_text (.string _) v
  | json =>
    cases encoded
    exact Json.Within.reads readBack
  | chatRequest =>
    cases encoded
    exact Chat.Request.reads v
  | chatMessage =>
    cases encoded
    exact Chat.Message.reads v
  | chatDirection =>
    cases encoded
    exact Chat.Direction.reads v
  | chatRecord =>
    cases encoded
    exact Chat.Record.reads v

namespace Payload

/-- Every readable value can be written. -/
theorem IsReadBack.exists_encode {k : Kind} {v : k.Value} (readBack : IsReadBack ⟨k, v⟩) :
    ∃ j, k.encode v = .ok j := by
  cases k with
  | pairLabels => cases readBack.1
  | optionalText => cases v <;> exact ⟨_, rfl⟩
  | _ => exact ⟨_, rfl⟩

/-- **Requests round-trip.** For every readable value there is a request that holds it. The body of
the request is the text that a marshalling mock writes, and what a marshalling mock reads from the
request or from the text is the value, whichever mock it is and whatever was done before. The JSON
values among them are all those without floating-point numbers that any text is read as. -/
theorem request_round_trip :
    (∀ j : Json, IsReadBack ⟨.json, j⟩ ↔
      (∃ text, Kind.json.parse text = .ok j) ∧ ¬ j.HasFloat) ∧
    ∀ p : Payload, p.IsReadBack → ∃ request, FlowRequest.ofPayload p = .ok request ∧ ∀ m w,
      (Act.format m p w).1 = .ok request.body ∧
      (request.bodyAs m p.kind w).1 = .ok p.value ∧
      (Act.parse m p.kind request.body w).1 = .ok p.value := by
  refine ⟨fun j => Json.within_maxDepth_iff, fun p readBack => ?_⟩
  obtain ⟨k, v⟩ := p
  obtain ⟨j, encoded⟩ := readBack.exists_encode
  have written : (⟨k, v⟩ : Payload).format = .ok j.text := by
    rw [Payload.format, Kind.format, encoded]
    rfl
  have read : ∀ m w, (Act.parse m k j.text w).1 = .ok v := by
    intro m w
    rw [Act.parse_apply, show k.parse j.text = .ok v from (reads readBack encoded).whole]
    rfl
  refine ⟨⟨j.text⟩, ?_, fun m w => ⟨?_, read m w, read m w⟩⟩
  · rw [FlowRequest.ofPayload, written]
    rfl
  · rw [Act.format_apply, written]

/-- A value with a control, an escape, a character outside the Basic Multilingual Plane, and the
least and the greatest number that a document can have. -/
def manySided : Json :=
  .object [("\n", .array [.integer (-9223372036854775808), .integer 18446744073709551615, .null]),
    ("\"", .object []), ("👻", .string "\x00\\")]

theorem request_round_trip_manySided : ∃ request,
    FlowRequest.ofPayload ⟨.json, manySided⟩ = .ok request ∧
    request.body = "\x7b\"\\n\":[-9223372036854775808,18446744073709551615,null]," ++
      "\"\\\"\":\x7b\x7d,\"👻\":\"\\u0000\\\\\"\x7d" ∧
    (request.bodyAs 0 .json {}).1 = .ok manySided := by
  have readBack : IsReadBack ⟨.json, manySided⟩ := by
    show Json.Within 127 manySided
    refine .object (by decide) fun f hf => ?_
    simp only [List.mem_cons, List.not_mem_nil, or_false] at hf
    rcases hf with rfl | rfl | rfl
    · refine .array fun j hj => ?_
      simp only [List.mem_cons, List.not_mem_nil, or_false] at hj
      rcases hj with rfl | rfl | rfl
      · exact .integer (by decide) (by decide)
      · exact .integer (by decide) (by decide)
      · exact .null
    · exact .object .nil (by simp)
    · exact .string _
  obtain ⟨request, made, round⟩ := request_round_trip.2 _ readBack
  refine ⟨request, made, ?_, (round 0 {}).2.1⟩
  cases made
  rfl

end Payload

end Rehearsal
