import Rehearsal.Error
import Rehearsal.Proofs.Member.RoundTrip

/-!
# The grammar of member names

Which texts name a member, said of their parts and without regard to how they are read. `Gives` says
what a part gives, `Offends` what it does wrong behind other parts, `WellFormed` which rows of parts
name somebody, and `FirstFault` what is reported of the others. Reading accepts just the well-formed
texts, gives just the values that their parts give, and reports just the first fault of all others.
-/

namespace Rehearsal.Member

/-- The parts of a text between its commas. -/
def partsOf (s : String) : List (List Char) := s.toList.splitOn ','

/-! ## Parts -/

/-- A key as it is compared and shown: without the blanks around it, and in upper case. -/
def keyText (key : List Char) : String := String.ofList ((Text.trim key).map Char.toUpper)

/-- A part gives an attribute a value: in front of its first `=` stands a key of the attribute, and
what stands behind, without the blanks around it, is the value, which is not empty. -/
def Gives (part : List Char) (a : Attribute) (value : String) : Prop :=
  ∃ key behind, part = key ++ '=' :: behind ∧ '=' ∉ key ∧ keyText key = a.key ∧
    value = String.ofList (Text.trim behind) ∧ value ≠ ""

/-- Some part gives the attribute a value. -/
def Given (parts : List (List Char)) (a : Attribute) : Prop :=
  ∃ part ∈ parts, ∃ value, Gives part a value

theorem ofKey?_eq_some {key : String} {a : Attribute} :
    Attribute.ofKey? key = some a ↔ a.key = key := by
  constructor
  · intro found
    simpa using List.find?_some found
  · rintro rfl
    cases a <;> rfl

theorem parsePart_undivided {part : List Char} (signless : '=' ∉ part) :
    parsePart part = .error .noPair := by
  have nothing : part.dropWhile (· != '=') = [] :=
    List.dropWhile_eq_nil_iff.mpr fun c hc => by
      simpa using fun same : c = '=' => signless (same ▸ hc)
  rw [parsePart, nothing]

/-- What is read of a part is decided by its key and its value alone. -/
theorem parsePart_divided {key : List Char} (signless : '=' ∉ key) (behind : List Char) :
    parsePart (key ++ '=' :: behind) =
      if Text.trim behind = [] then .error .emptyValue
      else match Attribute.ofKey? (keyText key) with
        | none => .error (.unsupported (keyText key))
        | some a => .ok (a, String.ofList (Text.trim behind)) := by
  have apart : ∀ c ∈ key, (c != '=') = true := fun c hc => by
    simpa using fun same : c = '=' => signless (same ▸ hc)
  rw [parsePart, List.dropWhile_append_of_pos apart, List.takeWhile_append_of_pos apart]
  by_cases empty : Text.trim behind = []
  · simp [empty]
  · have filled : (Text.trim behind).isEmpty = false := by simpa using empty
    simp only [List.dropWhile_cons, List.takeWhile_cons, bne_self_eq_false, if_neg empty, filled,
      Bool.false_eq_true, if_false, List.append_nil]
    rfl

theorem ofList_ne_empty {cs : List Char} : String.ofList cs ≠ "" ↔ cs ≠ [] := by
  simp [← String.toList_inj]

/-- A part is read as what it gives. -/
theorem parsePart_eq_ok {part : List Char} {a : Attribute} {value : String} :
    parsePart part = .ok (a, value) ↔ Gives part a value := by
  constructor
  · intro read
    by_cases sign : '=' ∈ part
    · obtain ⟨key, behind, rfl, signless⟩ := List.eq_append_cons_of_mem sign
      rw [parsePart_divided signless] at read
      split at read
      · cases read
      · next filled =>
        split at read
        · cases read
        · next known =>
          cases read
          exact ⟨key, behind, rfl, signless, (ofKey?_eq_some.mp known).symm, rfl,
            ofList_ne_empty.mpr filled⟩
    · rw [parsePart_undivided sign] at read
      cases read
  · rintro ⟨key, behind, rfl, signless, known, rfl, filled⟩
    rw [parsePart_divided signless, if_neg (ofList_ne_empty.mp filled),
      ofKey?_eq_some.mpr known.symm]

/-- Each part gives an attribute, and no two the same one. -/
structure Orderly (parts : List (List Char)) : Prop where
  gives : ∀ part ∈ parts, ∃ a value, Gives part a value
  once : parts.Pairwise fun part later => ∀ a value value', Gives part a value →
    ¬ Gives later a value'

variable {parts : List (List Char)} {given : Attributes}

theorem Reads.gives (reads : Reads parts given) {a : Attribute} {value : String} :
    (a, value) ∈ given ↔ ∃ part ∈ parts, Gives part a value := by
  have among : (a, value) ∈ given ↔ .ok (a, value) ∈ parts.map parsePart := by
    rw [show parts.map parsePart = given.map .ok from reads]
    simp
  rw [among, List.mem_map]
  exact exists_congr fun part => and_congr_right fun _ => parsePart_eq_ok

/-- No two parts give the same attribute just when none was read twice. -/
theorem Reads.once_iff (reads : Reads parts given) :
    (parts.Pairwise fun part later => ∀ a value value', Gives part a value →
      ¬ Gives later a value') ↔ (given.map Prod.fst).Nodup := by
  simp only [← parsePart_eq_ok]
  rw [← List.pairwise_map (f := parsePart)
    (R := fun x y => ∀ a v v', x = .ok (a, v) → ¬ y = .ok (a, v')),
    show parts.map parsePart = given.map .ok from reads, List.pairwise_map, List.Nodup,
    List.pairwise_map]
  refine iff_of_eq (congrArg (List.Pairwise · given) ?_)
  funext ⟨a, v⟩ ⟨a', v'⟩
  refine propext ⟨?_, fun apart b u u' here there => ?_⟩
  · rintro apart rfl
    exact apart a v v' rfl rfl
  · cases here
    cases there
    exact apart rfl

/-- Orderly parts are those that are read one by one, no attribute twice. -/
theorem orderly_iff : Orderly parts ↔ ∃ given, Reads parts given ∧ (given.map Prod.fst).Nodup := by
  constructor
  · rintro ⟨gives, once⟩
    have readable : ∃ given, Reads parts given := by
      clear once
      induction parts with
      | nil => exact ⟨[], rfl⟩
      | cons part parts ih =>
        obtain ⟨a, value, here⟩ := gives part (List.mem_cons_self ..)
        obtain ⟨given, reads⟩ := ih fun p hp => gives p (List.mem_cons_of_mem _ hp)
        exact ⟨(a, value) :: given, congrArg₂ List.cons (parsePart_eq_ok.mpr here) reads⟩
    obtain ⟨given, reads⟩ := readable
    exact ⟨given, reads, reads.once_iff.mp once⟩
  · rintro ⟨given, reads, distinct⟩
    refine ⟨fun part hp => ?_, reads.once_iff.mpr distinct⟩
    have among : parsePart part ∈ given.map .ok :=
      (show parts.map parsePart = given.map .ok from reads) ▸ List.mem_map_of_mem hp
    obtain ⟨⟨a, value⟩, -, read⟩ := List.mem_map.mp among
    exact ⟨a, value, parsePart_eq_ok.mp read.symm⟩

/-- What is found among collected attributes is what the parts give. -/
def Finds (given : Attributes) (parts : List (List Char)) : Prop :=
  ∀ a value, given.lookup a = some value ↔ ∃ part ∈ parts, Gives part a value

theorem Finds.isSome_iff (found : Finds given parts) (a : Attribute) :
    (given.lookup a).isSome ↔ Given parts a := by
  rw [Option.isSome_iff_exists]
  constructor
  · rintro ⟨value, there⟩
    obtain ⟨part, hp, gives⟩ := (found a value).mp there
    exact ⟨part, hp, value, gives⟩
  · rintro ⟨part, hp, value, gives⟩
    exact ⟨value, (found a value).mpr ⟨part, hp, gives⟩⟩

/-- Orderly parts are collected. -/
theorem Orderly.collected (h : Orderly parts) :
    ∃ given, collect [] parts = .ok given ∧ Finds given parts := by
  obtain ⟨given, reads, distinct⟩ := orderly_iff.mp h
  refine ⟨given, collect_of_reads [] reads distinct, fun a value => ?_⟩
  rw [← reads.gives]
  exact ⟨mem_of_lookup, lookup_of_mem distinct⟩

/-- Only orderly parts are collected. -/
theorem orderly_of_collect (h : collect [] parts = .ok given) :
    Orderly parts ∧ Finds given parts := by
  obtain ⟨_, rfl, reads, distinct⟩ := reads_of_collect (by simp) h
  have orderly := orderly_iff.mpr ⟨_, reads, distinct⟩
  obtain ⟨given, collected, found⟩ := orderly.collected
  cases collected.symm.trans h
  exact ⟨orderly, found⟩

/-- Parts are collected one row behind the other. -/
theorem collect_append (given : Attributes) (before after : List (List Char)) :
    collect given (before ++ after) = collect given before >>= (collect · after) := by
  induction before generalizing given with
  | nil => rfl
  | cons part before ih =>
    rw [List.cons_append, collect, collect]
    cases parsePart part with
    | error fault => rfl
    | ok entry =>
      dsimp only
      split
      · rfl
      · exact ih _

/-- The attributes that every name has, in the order in which they are missed. -/
def mandatory : List Attribute := [.organization, .locality, .country]

/-- Two upper-case letters. -/
def CountryCode (value : String) : Prop :=
  ∃ x y : Char, value.toList = [x, y] ∧ x.isUpper ∧ y.isUpper

/-- The parts name a member. -/
structure WellFormed (parts : List (List Char)) : Prop where
  orderly : Orderly parts
  complete : ∀ a ∈ mandatory, Given parts a
  country : ∀ part ∈ parts, ∀ value, Gives part .country value → CountryCode value

theorem isCountryCode_iff {value : String} : isCountryCode value = true ↔ CountryCode value := by
  simp only [isCountryCode, CountryCode, Bool.and_eq_true, beq_iff_eq, List.length_eq_two]
  constructor
  · rintro ⟨⟨x, y, letters⟩, upper⟩
    rw [letters] at upper
    simp only [List.all_cons, List.all_nil, Bool.and_true, Bool.and_eq_true] at upper
    exact ⟨x, y, letters, upper⟩
  · rintro ⟨x, y, letters, upper⟩
    refine ⟨⟨x, y, letters⟩, ?_⟩
    simpa [letters] using upper

/-- The name that some parts give together. -/
def ofParts (parts : List (List Char)) : Except Fault Member := collect [] parts >>= ofAttributes

theorem parse_eq_ofParts (s : String) : parse s = ofParts (partsOf s) := rfl

/-- Every name has the mandatory attributes. -/
theorem isSome_value_of_mandatory {a : Attribute} (h : a ∈ mandatory) (m : Member) :
    (m.value a).isSome := by
  simp only [mandatory, List.mem_cons, List.not_mem_nil, or_false] at h
  rcases h with rfl | rfl | rfl <;> rfl

/-- **What is read** of well-formed parts is what they give. -/
theorem ofParts_eq_ok {m : Member} : ofParts parts = .ok m ↔ WellFormed parts ∧
    ∀ a value, m.value a = some value ↔ ∃ part ∈ parts, Gives part a value := by
  unfold ofParts
  constructor
  · intro read
    cases collected : collect [] parts with
    | error fault =>
      rw [collected] at read
      cases read
    | ok given =>
      rw [collected] at read
      obtain ⟨orderly, found⟩ := orderly_of_collect collected
      obtain ⟨all, code⟩ := ofAttributes_eq_ok.mp read
      refine ⟨⟨orderly, fun a ha => ?_, fun part hp value gives => ?_⟩, fun a value => ?_⟩
      · refine (found.isSome_iff a).mp ?_
        rw [all]
        exact isSome_value_of_mandatory ha m
      · have there := (found .country value).mpr ⟨part, hp, gives⟩
        rw [all] at there
        cases there
        exact isCountryCode_iff.mp code
      · rw [← all]
        exact found a value
  · rintro ⟨⟨orderly, complete, country⟩, values⟩
    obtain ⟨given, collected, found⟩ := orderly.collected
    rw [collected]
    refine ofAttributes_eq_ok.mpr ⟨fun a => ?_, ?_⟩
    · refine Option.ext fun value => ?_
      exact (found a value).trans (values a value).symm
    · obtain ⟨part, hp, gives⟩ := (values .country m.country).mp rfl
      exact isCountryCode_iff.mpr (country part hp m.country gives)

theorem read_eq_ok {s : String} {m : Member} : read s = .ok m ↔ parse s = .ok m := by
  unfold read
  cases parse s <;> simp

-- An empty value comes before its unknown key, and before what later parts do wrong.
example : parse "O=R3,x= ,O=R4" = .error .emptyValue := by decide +kernel

-- What an earlier part gave is not given again, and only then a later part counts.
example : parse "O=R3, o =R4,x=1" = .error .duplicate := by decide +kernel

-- What is missing counts before the country.
example : parse "C=gb,CN=a=b,O=R3" = .error (.missing .locality) := by decide +kernel

end Rehearsal.Member
