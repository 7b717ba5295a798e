import Rehearsal.Proofs.Json.Documents

/-!
# What documents hold

Whatever a document holds keeps to the bounds: it is not nested deeper than 127, its whole numbers
are words, signed or not, and the fields of its objects stand in the order of their names. So the
values without floating-point numbers that documents hold are exactly those that are read back from
their texts.
-/

namespace Rehearsal.Json

variable {σ α β κ : Type} {r : Reader α} {a : α} {cs rest : List Char}

/-- A floating-point number is in the value or is the value. -/
inductive HasFloat : Json → Prop where
  | float (x : Float) : HasFloat (.float x)
  | array {items : List Json} {j : Json} (mem : j ∈ items) (has : HasFloat j) :
    HasFloat (.array items)
  | object {fields : List (String × Json)} {f : String × Json} (mem : f ∈ fields)
      (has : HasFloat f.2) : HasFloat (.object fields)

/-- A reader takes this value off the front of some text. -/
def Yields (r : Reader α) (a : α) : Prop := ∃ cs rest, r cs = .ok (a, rest)

/-! ## Readers and loops -/

theorem Reader.of_bind {next : α → Reader β} {b : β} (read : (r.bind next) cs = .ok (b, rest)) :
    ∃ a mid, r cs = .ok (a, mid) ∧ next a mid = .ok (b, rest) := by
  rw [Reader.bind] at read
  cases first : r cs with
  | error stop =>
    rw [first] at read
    cases read
  | ok taken =>
    rw [first] at read
    exact ⟨taken.1, taken.2, rfl, read⟩

theorem Reader.of_map {f : α → β} {b : β} (read : (r.map f) cs = .ok (b, rest)) :
    ∃ a, r cs = .ok (a, rest) ∧ b = f a := by
  obtain ⟨a, mid, first, same⟩ := Reader.of_bind read
  cases same
  exact ⟨a, first, rfl⟩

theorem of_loopFor {turn : σ → Reader (Turn σ α)} {s : σ} {fuel : Nat} (Kept : σ → Prop)
    (Ends : α → Prop)
    (again : ∀ s cs s' rest, Kept s → turn s cs = .ok (.again s', rest) → Kept s')
    (done : ∀ s cs a rest, Kept s → turn s cs = .ok (.done a, rest) → Ends a) (kept : Kept s)
    (read : loopFor turn fuel s cs = .ok (a, rest)) : Ends a := by
  induction fuel generalizing s cs with
  | zero => cases read
  | succ fuel ih =>
    rw [loopFor] at read
    split at read
    · cases read
    · next last =>
      cases read
      exact done s cs _ _ kept last
    · next next => exact ih (again s cs _ _ kept next) read

/-- What every turn of a loop keeps, its end has to go by. -/
theorem of_loop {turn : σ → Reader (Turn σ α)} {s : σ} (Kept : σ → Prop) (Ends : α → Prop)
    (again : ∀ s cs s' rest, Kept s → turn s cs = .ok (.again s', rest) → Kept s')
    (done : ∀ s cs a rest, Kept s → turn s cs = .ok (.done a, rest) → Ends a) (kept : Kept s)
    (read : loop turn s cs = .ok (a, rest)) : Ends a :=
  of_loopFor Kept Ends again done kept read

/-- All items of an array come from the reader of the items. -/
theorem yields_of_listTail {item : Reader α} {as : List α}
    (read : listTail item cs = .ok (as, rest)) : ∀ a ∈ as, Yields item a := by
  obtain ⟨items, mid, looped, ended⟩ := Reader.of_bind read
  obtain ⟨-, -, rfl⟩ := Reader.of_map ended
  refine of_loop (fun read => ∀ a ∈ read, Yields item a) (fun as => ∀ a ∈ as, Yields item a)
    ?_ ?_ (by simp) looped
  · intro read cs read' rest kept turn
    obtain ⟨ahead, mid, -, next⟩ := Reader.of_bind turn
    cases ahead with
    | false => cases next
    | true =>
      obtain ⟨a, taken, same⟩ := Reader.of_map next
      cases same
      exact List.forall_mem_cons.mpr ⟨⟨_, _, taken⟩, kept⟩
  · intro read cs as rest kept turn
    obtain ⟨ahead, mid, -, next⟩ := Reader.of_bind turn
    cases ahead with
    | false =>
      cases next
      simpa using kept
    | true =>
      obtain ⟨a, taken, same⟩ := Reader.of_map next
      cases same

/-- Fields in the order of their names, with values that come from this reader. -/
structure YieldsFields (item : Reader Json) (fields : List (String × Json)) : Prop where
  ascending : fields.Pairwise fun f g => f.1 < g.1
  each : ∀ f ∈ fields, Yields item f.2

/-- The fields of an object stand in the order of their names, and their values come from the
reader of the values. -/
theorem yields_of_objectTail {item : Reader Json} {fields : List (String × Json)}
    (read : objectTail stringKey (addField item) [] cs = .ok (fields, rest)) :
    YieldsFields item fields := by
  obtain ⟨entries, mid, looped, ended⟩ := Reader.of_bind read
  obtain ⟨-, -, rfl⟩ := Reader.of_map ended
  refine of_loop (fun state => YieldsFields item state.2) (YieldsFields item) ?_ ?_
    ⟨.nil, by simp⟩ looped
  · intro state cs state' rest kept turn
    obtain ⟨ahead, mid, -, next⟩ := Reader.of_bind turn
    cases ahead with
    | false => cases next
    | true =>
      obtain ⟨name, mid, -, next⟩ := Reader.of_bind next
      obtain ⟨fields, added, same⟩ := Reader.of_map next
      cases same
      obtain ⟨-, mid, -, next⟩ := Reader.of_bind added
      obtain ⟨j, taken, rfl⟩ := Reader.of_map next
      refine ⟨OrderedMap.pairwise_insertEntry name j kept.ascending, fun f hf => ?_⟩
      rcases mem_insertEntry hf with rfl | old
      · exact ⟨_, _, taken⟩
      · exact kept.each f old
  · intro state cs fields rest kept turn
    obtain ⟨ahead, mid, -, next⟩ := Reader.of_bind turn
    cases ahead with
    | false =>
      cases next
      exact kept
    | true =>
      obtain ⟨name, mid, -, next⟩ := Reader.of_bind next
      obtain ⟨fields, added, same⟩ := Reader.of_map next
      cases same

/-! ## Numbers -/

/-- A reader of numerals that are not whole. -/
def ReadsNoInteger (r : Reader Numeral) : Prop := ∀ cs i rest, r cs ≠ .ok (.integer i, rest)

theorem fromParts_no_integer (negative : Bool) (significand : Nat) (exponent : Int) :
    ReadsNoInteger (fromParts negative significand exponent) := by
  intro cs i rest read
  rw [fromParts] at read
  cases parts : ofParts negative significand exponent with
  | error fault =>
    rw [parts] at read
    cases read
  | ok x =>
    rw [parts] at read
    cases read

theorem exponentDigits_no_integer (negative : Bool) (significand : Nat) (base : Int)
    (down : Bool) : ReadsNoInteger (exponentDigits negative significand base down) := by
  intro cs i rest read
  unfold exponentDigits at read
  split at read
  · cases read
  · split at read
    · cases read
    · dsimp only at read
      split at read
      · exact fromParts_no_integer _ _ _ _ _ _ read
      · split at read <;> cases read

theorem exponentTail_no_integer (negative : Bool) (significand : Nat) (base : Int) :
    ReadsNoInteger (exponentTail negative significand base) := by
  intro cs i rest read
  unfold exponentTail at read
  split at read <;> exact exponentDigits_no_integer _ _ _ _ _ _ _ read

theorem decimals_no_integer (negative : Bool) (significand : Nat) (exponent : Int) :
    ReadsNoInteger (decimals negative significand exponent) := by
  intro cs i rest read
  unfold decimals at read
  dsimp only at read
  split at read
  · cases read
  · unfold afterDigits at read
    split at read
    · exact exponentTail_no_integer _ _ _ _ _ _ read
    · exact exponentTail_no_integer _ _ _ _ _ _ read
    · exact fromParts_no_integer _ _ _ _ _ _ read

theorem gather_le {bound n : Nat} (start : n ≤ bound) (cs : List Char) :
    (gather bound n cs).1 ≤ bound := by
  induction cs generalizing n with
  | nil => exact start
  | cons c cs ih =>
    rw [gather]
    split
    · next fits => exact ih fits
    · exact start

theorem afterWhole_bounds {negative : Bool} {significand dropped : Nat} {i : Int}
    (fits : significand ≤ maxWord)
    (read : afterWhole negative significand dropped cs = .ok (.integer i, rest)) :
    -9223372036854775808 ≤ i ∧ i ≤ 18446744073709551615 := by
  have word : maxWord = 18446744073709551615 := by decide
  have power : Nat.pow 2 63 = 9223372036854775808 := by decide
  unfold afterWhole at read
  split at read
  · exact absurd read (decimals_no_integer _ _ _ _ _ _)
  · exact absurd read (exponentTail_no_integer _ _ _ _ _ _)
  · exact absurd read (exponentTail_no_integer _ _ _ _ _ _)
  · split at read
    · split at read
      · cases read
        omega
      · split at read
        · next signed =>
          cases read
          simp only [Bool.and_eq_true, decide_eq_true_eq] at signed
          omega
        · cases read
    · exact absurd read (fromParts_no_integer _ _ _ _ _ _)

/-- A whole number that is read off a text is a word, signed or not. -/
theorem numeral_bounds {negative : Bool} {i : Int}
    (read : numeral negative cs = .ok (.integer i, rest)) :
    -9223372036854775808 ≤ i ∧ i ≤ 18446744073709551615 := by
  cases cs with
  | nil => cases read
  | cons c cs =>
    rw [numeral.eq_def] at read
    dsimp only at read
    split at read
    · split at read
      · split at read
        · cases read
        · exact afterWhole_bounds (Nat.zero_le _) read
      · exact afterWhole_bounds (Nat.zero_le _) read
    · split at read
      · have fits := gather_le (Nat.zero_le maxWord) (c :: cs.takeWhile Char.isDigit)
        exact afterWhole_bounds fits read
      · cases read

/-! ## Values -/

/-- Within the bounds, or with a floating-point number. -/
abbrev Sound (depth : Nat) (j : Json) : Prop := j.Within depth ∨ j.HasFloat

theorem sound_of_numeral {negative : Bool} {depth : Nat} {j : Json}
    (read : ((numeral negative).map Numeral.toJson) cs = .ok (j, rest)) : Sound depth j := by
  obtain ⟨n, taken, rfl⟩ := Reader.of_map read
  cases n with
  | integer i =>
    obtain ⟨low, high⟩ := numeral_bounds taken
    exact .inl (.integer low high)
  | float x => exact .inr (.float x)

theorem sound_array {depth : Nat} {items : List Json} (each : ∀ j ∈ items, Sound depth j) :
    Sound (depth + 1) (.array items) := by
  by_cases float : ∃ j ∈ items, j.HasFloat
  · obtain ⟨j, mem, has⟩ := float
    exact .inr (.array mem has)
  · exact .inl (.array fun j mem => (each j mem).resolve_right fun has => float ⟨j, mem, has⟩)

theorem sound_object {depth : Nat} {fields : List (String × Json)}
    (ascending : fields.Pairwise fun f g => f.1 < g.1) (each : ∀ f ∈ fields, Sound depth f.2) :
    Sound (depth + 1) (.object fields) := by
  by_cases float : ∃ f ∈ fields, f.2.HasFloat
  · obtain ⟨f, mem, has⟩ := float
    exact .inr (.object mem has)
  · exact .inl (.object ascending fun f mem =>
      (each f mem).resolve_right fun has => float ⟨f, mem, has⟩)

/-- A value is sound if the values inside it are sound one level further down. -/
theorem sound_of_valueAround {inner : Option (Reader Json)} {depth : Nat} {j : Json}
    (inside : ∀ r, inner = some r → ∃ below, depth = below + 1 ∧
      ∀ j, Yields r j → Sound below j)
    (read : valueAround inner cs = .ok (j, rest)) : Sound depth j := by
  unfold valueAround at read
  split at read
  · cases read
  · split at read
    · obtain ⟨-, -, rfl⟩ := Reader.of_map read
      exact .inl .null
    split at read
    · obtain ⟨-, -, rfl⟩ := Reader.of_map read
      exact .inl (.bool true)
    split at read
    · obtain ⟨-, -, rfl⟩ := Reader.of_map read
      exact .inl (.bool false)
    split at read
    · exact sound_of_numeral read
    split at read
    · exact sound_of_numeral read
    split at read
    · obtain ⟨s, -, rfl⟩ := Reader.of_map read
      exact .inl (.string s)
    split at read
    · split at read
      · cases read
      · next r =>
        obtain ⟨below, rfl, sound⟩ := inside r rfl
        obtain ⟨items, taken, rfl⟩ := Reader.of_map read
        exact sound_array fun j mem => sound j (yields_of_listTail taken j mem)
    split at read
    · split at read
      · cases read
      · next r =>
        obtain ⟨below, rfl, sound⟩ := inside r rfl
        obtain ⟨fields, taken, rfl⟩ := Reader.of_map read
        have fields := yields_of_objectTail taken
        exact sound_object fields.ascending fun f mem => sound f.2 (fields.each f mem)
    · cases read

theorem sound_of_valueWithin {depth : Nat} {j : Json}
    (read : valueWithin depth cs = .ok (j, rest)) : Sound depth j := by
  induction depth generalizing j cs rest with
  | zero => exact sound_of_valueAround (fun r none => by cases none) read
  | succ depth ih =>
    refine sound_of_valueAround (fun r some => ⟨depth, rfl, fun j yields => ?_⟩) read
    cases some
    obtain ⟨cs, rest, taken⟩ := yields
    exact ih taken

theorem Within.no_float {depth : Nat} {j : Json} (within : j.Within depth) : ¬ j.HasFloat := by
  induction within with
  | null | bool | integer | string => exact fun has => by cases has
  | array _ ih =>
    intro has
    cases has with
    | array mem has => exact ih _ mem has
  | object _ _ ih =>
    intro has
    cases has with
    | object mem has => exact ih _ mem has

/-- **The values of documents** that have no floating-point number are those within the bounds. -/
theorem within_maxDepth_iff {j : Json} :
    j.Within maxDepth ↔ (∃ text, ofText text = .ok j) ∧ ¬ j.HasFloat := by
  constructor
  · exact fun within => ⟨⟨j.text, within.reads.whole⟩, within.no_float⟩
  · rintro ⟨⟨text, read⟩, no_float⟩
    rw [ofText, whole] at read
    split at read
    · cases read
    · next taken =>
      cases read
      obtain ⟨j, mid, value, ended⟩ := Reader.of_bind taken
      obtain ⟨-, -, rfl⟩ := Reader.of_map ended
      exact (sound_of_valueWithin value).resolve_right no_float

end Rehearsal.Json
