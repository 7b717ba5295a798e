import Rehearsal.Member
import Rehearsal.Proofs.Lists
import Rehearsal.Proofs.Text.Trimming

/-!
# Names and their texts

A name that was read is read again from the text it is shown as. Reading keeps only values that
can be shown: they are not empty, have no blank at either end, and hold no comma, because the text
was split at commas first. Such values come through showing and reading untouched, whatever else
is in them: `=` signs, blanks inside, any other character. So the text of a name that was read is
as good as the name: two of them are the same name just when they are shown alike.
-/

namespace Rehearsal.Member

/-! ## Reading parts -/

/-- What the value of an attribute is once it has been read. -/
structure Proper (value : String) : Prop where
  nonempty : value ≠ ""
  trimmed : Text.trim value.toList = value.toList
  undivided : ',' ∉ value.toList

/-- A part without commas has a proper value, if it has one at all. -/
theorem proper_of_parsePart {part : List Char} {given : Attribute × String}
    (undivided : ',' ∉ part) (h : parsePart part = .ok given) : Proper given.2 := by
  unfold parsePart at h
  split at h
  · cases h
  · next sign behind found =>
    dsimp only at h
    split at h
    · cases h
    · next filled =>
      split at h
      · cases h
      · cases h
        have inside : ∀ c ∈ Text.trim behind, c ∈ part := fun c hc =>
          (List.dropWhile_sublist _).mem (found ▸ List.mem_cons_of_mem _ (Text.mem_of_mem_trim hc))
        refine ⟨?_, ?_, ?_⟩
        · simpa [← String.toList_inj] using filled
        · simp
        · simpa using fun hc => undivided (inside _ hc)

/-- Splitting leaves no separator in any part. -/
theorem not_mem_of_mem_splitOn {sep : Char} {cs part : List Char} (h : part ∈ cs.splitOn sep) :
    sep ∉ part := by
  induction cs generalizing part with
  | nil => simp_all [List.splitOn_nil]
  | cons c cs ih =>
    rw [List.splitOn_cons_eq_if_modifyHead] at h
    split at h
    · rcases List.mem_cons.mp h with rfl | later
      · exact List.not_mem_nil
      · exact ih later
    · next other =>
      obtain ⟨first, parts, same⟩ := List.exists_cons_of_ne_nil (List.splitOn_ne_nil sep cs)
      rw [same, List.modifyHead_cons] at h
      rcases List.mem_cons.mp h with rfl | later
      · have clean := ih (same ▸ List.mem_cons_self : first ∈ cs.splitOn sep)
        simpa [clean] using fun he => other (by simp [he])
      · exact ih (same ▸ List.mem_cons_of_mem _ later)

/-- The attributes that the parts hold one by one. -/
def Reads (parts : List (List Char)) (given : Attributes) : Prop :=
  parts.map parsePart = given.map .ok

/-- What was collected was read from the parts, and no attribute twice. -/
theorem reads_of_collect {given out : Attributes} {parts : List (List Char)}
    (distinct : (given.map Prod.fst).Nodup) (h : collect given parts = .ok out) :
    ∃ more, out = given ++ more ∧ Reads parts more ∧ (out.map Prod.fst).Nodup := by
  induction parts generalizing given with
  | nil =>
    cases h
    exact ⟨[], by simp, rfl, distinct⟩
  | cons part parts ih =>
    unfold collect at h
    split at h
    · cases h
    · next a value read =>
      split at h
      · cases h
      · next new =>
        have fresh : a ∉ given.map Prod.fst := by
          simpa [List.lookup_eq_none_iff] using new
        have distinct' : ((given ++ [(a, value)]).map Prod.fst).Nodup := by
          rw [List.map_append]
          exact distinct.append (List.nodup_singleton a) (by simpa using fresh)
        obtain ⟨more, rfl, reads, nodup⟩ := ih distinct' h
        exact ⟨(a, value) :: more, by simp, congrArg₂ List.cons read reads, nodup⟩

/-- Parts that are read one by one are collected if no attribute comes twice. -/
theorem collect_of_reads (given : Attributes) {more : Attributes} {parts : List (List Char)}
    (reads : Reads parts more) (distinct : ((given ++ more).map Prod.fst).Nodup) :
    collect given parts = .ok (given ++ more) := by
  induction parts generalizing given more with
  | nil =>
    obtain rfl : more = [] := by simpa [Reads] using reads
    simp [collect]
  | cons part parts ih =>
    obtain ⟨⟨a, value⟩, more, rfl, read, rest⟩ := List.map_eq_cons_iff.mp reads.symm
    have new : given.lookup a = none := by
      have apart := (List.nodup_append.mp (List.map_append ▸ distinct)).2.2
      rw [List.lookup_eq_none_iff]
      intro earlier hearlier
      simpa using (apart earlier.1 (List.mem_map_of_mem hearlier) a (by simp)).symm
    have next := ih (given ++ [(a, value)]) rest.symm (by simpa using distinct)
    simpa [collect, ← read, new] using next

/-! ## Names that were read -/

/-- The value a name has for an attribute. -/
def value (m : Member) : Attribute → Option String
  | .commonName => m.commonName
  | .organizationUnit => m.organizationUnit
  | .organization => some m.organization
  | .locality => some m.locality
  | .state => m.state
  | .country => some m.country

theorem lookup_attributes (m : Member) (a : Attribute) : m.attributes.lookup a = m.value a := by
  obtain ⟨cn, ou, _, _, st, _⟩ := m
  cases a <;> cases cn <;> cases ou <;> cases st <;> rfl

/-- No name has an attribute twice. -/
theorem nodup_attributes (m : Member) : (m.attributes.map Prod.fst).Nodup := by
  obtain ⟨cn, ou, _, _, st, _⟩ := m
  cases cn <;> cases ou <;> cases st <;> simp [attributes]

/-- The name of some attributes is the one that has each of them, if its country is a country
code. -/
theorem ofAttributes_eq_ok {given : Attributes} {m : Member} : ofAttributes given = .ok m ↔
    (∀ a, given.lookup a = m.value a) ∧ isCountryCode m.country = true := by
  constructor
  · intro h
    unfold ofAttributes Attributes.require at h
    cases organization : given.lookup .organization with
    | none => simp [organization, bind, Except.bind] at h
    | some o =>
      cases locality : given.lookup .locality with
      | none => simp [organization, locality, bind, Except.bind] at h
      | some l =>
        cases country : given.lookup .country with
        | none => simp [organization, locality, country, bind, Except.bind] at h
        | some c =>
          by_cases code : isCountryCode c = true
          · simp only [organization, locality, country, code, bind, Except.bind, pure, Except.pure,
              Bool.not_true, Bool.false_eq_true, if_false, Except.ok.injEq] at h
            subst h
            refine ⟨fun a => ?_, code⟩
            cases a <;> simp [value, organization, locality, country]
          · simp [organization, locality, country, code, bind, Except.bind] at h
  · rintro ⟨all, code⟩
    unfold ofAttributes Attributes.require
    simp [all, value, code, bind, Except.bind, pure, Except.pure]

/-- A name whose values are proper and whose country is a country code. -/
structure Canonical (m : Member) : Prop where
  proper : ∀ entry ∈ m.attributes, Proper entry.2
  country : isCountryCode m.country = true

/-- Whatever is read is canonical. -/
theorem canonical_of_parse {s : String} {m : Member} (h : parse s = .ok m) : m.Canonical := by
  unfold parse at h
  cases collected : collect [] (s.toList.splitOn ',') with
  | error fault => simp [collected, bind, Except.bind] at h
  | ok given =>
    replace h : ofAttributes given = .ok m := by simpa [collected, bind, Except.bind] using h
    obtain ⟨all, country⟩ := ofAttributes_eq_ok.mp h
    obtain ⟨_, rfl, reads, -⟩ := reads_of_collect (by simp) collected
    refine ⟨fun entry hentry => ?_, country⟩
    have found : _ = some entry.2 := (all entry.1).trans ((lookup_attributes m entry.1).symm.trans
      (lookup_of_mem m.nodup_attributes hentry))
    -- Its value was read from a part of the text, and no part holds a comma.
    have among : .ok entry ∈ (s.toList.splitOn ',').map parsePart :=
      reads ▸ List.mem_map_of_mem (mem_of_lookup found)
    obtain ⟨part, hpart, read⟩ := List.mem_map.mp among
    exact proper_of_parsePart (not_mem_of_mem_splitOn hpart) read

/-! ## Showing -/

/-- The part of a text that shows an attribute. -/
def shown (entry : Attribute × String) : List Char :=
  entry.1.key.toList ++ '=' :: entry.2.toList

/-- A shown attribute is read again, behind a blank or not. -/
theorem parsePart_shown {gap : List Char} (hgap : gap = [] ∨ gap = [' '])
    {entry : Attribute × String} (proper : Proper entry.2) :
    parsePart (gap ++ shown entry) = .ok entry := by
  obtain ⟨a, value⟩ := entry
  have signless : ∀ c ∈ gap ++ a.key.toList, (c != '=') = true := by
    rcases hgap with rfl | rfl <;> cases a <;> simp [Attribute.key]
  have key : Attribute.ofKey? (String.ofList
      ((Text.trim (gap ++ a.key.toList)).map Char.toUpper)) = some a := by
    rcases hgap with rfl | rfl <;> cases a <;> rfl
  have filled : value.toList.isEmpty = false := by
    simpa using proper.nonempty
  unfold parsePart shown
  rw [← List.append_assoc, List.dropWhile_append_of_pos signless,
    List.takeWhile_append_of_pos signless]
  simp [proper.trimmed, filled, key]

/-- A shown attribute is one part. -/
theorem undivided_shown {entry : Attribute × String} (proper : Proper entry.2) :
    ',' ∉ shown entry := by
  have key : ',' ∉ entry.1.key.toList := by cases entry.1 <;> decide
  simpa [shown, key] using proper.undivided

/-- The parts of shown attributes: each but the first keeps the blank behind the comma. -/
def parts : Attributes → List (List Char)
  | [] => []
  | entry :: entries => shown entry :: entries.map fun later => [' '] ++ shown later

variable {entries : Attributes}

theorem undivided_parts (proper : ∀ entry ∈ entries, Proper entry.2) :
    ∀ part ∈ parts entries, ',' ∉ part := by
  cases entries with
  | nil => simp [parts]
  | cons entry entries =>
    intro part hpart
    rcases List.mem_cons.mp hpart with rfl | behind
    · exact undivided_shown (proper entry (List.mem_cons_self ..))
    · obtain ⟨later, hlater, rfl⟩ := List.mem_map.mp behind
      simpa using undivided_shown (proper later (List.mem_cons_of_mem _ hlater))

theorem reads_parts (proper : ∀ entry ∈ entries, Proper entry.2) :
    Reads (parts entries) entries := by
  cases entries with
  | nil => rfl
  | cons entry entries =>
    refine congrArg₂ List.cons ?_ ?_
    · exact parsePart_shown (.inl rfl) (proper entry (List.mem_cons_self ..))
    · rw [List.map_map]
      refine List.map_congr_left fun later hlater => ?_
      rw [Function.comp_apply]
      exact parsePart_shown (.inr rfl) (proper later (List.mem_cons_of_mem _ hlater))

/-- Commas with a blank behind them are commas with a blank in front of each part but the
first. -/
theorem intercalate_comma_blank (part : List Char) (others : List (List Char)) :
    [',', ' '].intercalate (part :: others) =
      [','].intercalate (part :: others.map ([' '] ++ ·)) := by
  induction others generalizing part with
  | nil => rfl
  | cons next others ih =>
    rw [List.intercalate_cons_cons, ih]
    simp [List.intercalate_cons_cons, List.intercalate_cons_cons_left]

/-- The characters of a canonical text: its parts between commas. -/
theorem toList_text (m : Member) : m.text.toList = [','].intercalate (parts m.attributes) := by
  have chars : m.text.toList = [',', ' '].intercalate (m.attributes.map shown) := by
    unfold text
    rw [String.toList_intercalate, List.map_map]
    exact congrArg _ (List.map_congr_left fun entry _ => by simp [shown])
  rw [chars]
  cases m.attributes with
  | nil => rfl
  | cons entry entries =>
    rw [List.map_cons, intercalate_comma_blank, List.map_map]
    rfl

/-- A canonical name is read from its text. -/
theorem Canonical.parse_text {m : Member} (h : m.Canonical) : parse m.text = .ok m := by
  have some_parts : parts m.attributes ≠ [] := by
    obtain ⟨cn, ou, _, _, _, _⟩ := m
    cases cn <;> cases ou <;> exact List.cons_ne_nil _ _
  have split : m.text.toList.splitOn ',' = parts m.attributes := by
    rw [toList_text]
    exact List.splitOn_intercalate ',' (undivided_parts h.proper) some_parts
  have collected := collect_of_reads [] (reads_parts h.proper) m.nodup_attributes
  rw [parse, split, collected]
  exact ofAttributes_eq_ok.mpr ⟨m.lookup_attributes, h.country⟩

/-! ## Names and texts -/

/-- **Names round-trip.** The text of a name that was read is read as the same name, so it is
shown as the same text again; and two texts were read as the same name just when these names are
shown alike, whatever attributes they have. The names that can be read are the canonical ones. -/
theorem names_round_trip :
    (∀ s m, parse s = .ok m →
      parse m.text = .ok m ∧ ∀ m', parse m.text = .ok m' → m'.text = m.text) ∧
    (∀ s s' m m', parse s = .ok m → parse s' = .ok m' → (m = m' ↔ m.text = m'.text)) ∧
    ∀ m, (∃ s, parse s = .ok m) ↔ m.Canonical := by
  have again : ∀ s m, parse s = .ok m → parse m.text = .ok m :=
    fun _ _ h => (canonical_of_parse h).parse_text
  refine ⟨fun s m h => ⟨again s m h, fun m' h' => ?_⟩, fun s s' m m' h h' => ⟨?_, ?_⟩,
    fun m => ⟨fun ⟨_, h⟩ => canonical_of_parse h, fun h => ⟨m.text, h.parse_text⟩⟩⟩
  · rw [again s m h] at h'
    cases h'
    rfl
  · rintro rfl
    rfl
  · intro shownAlike
    have read := again s m h
    rw [shownAlike, again s' m' h'] at read
    exact (Except.ok.inj read).symm

/-- Two spellings with all six attributes, with `=` and blanks of several kinds in their values. -/
theorem names_round_trip_spellings : ∃ m m' : Member,
    parse " c=GB ,ou = a=b ; c,\u00a0St=x y,O=R3, l =New\u3000York\u3000,cn=\u03a9" = .ok m ∧
    parse "CN=\u03a9,ST=x y,L=New\u3000York,C=GB,OU=a=b ; c,O=R3" = .ok m' ∧
    m.text = "CN=\u03a9, OU=a=b ; c, O=R3, L=New\u3000York, ST=x y, C=GB" ∧
    parse m.text = .ok m ∧ m = m' := by
  have first : parse " c=GB ,ou = a=b ; c,\u00a0St=x y,O=R3, l =New\u3000York\u3000,cn=\u03a9" =
      .ok ⟨some "\u03a9", some "a=b ; c", "R3", "New\u3000York", some "x y", "GB"⟩ := by
    decide +kernel
  have second : parse "CN=\u03a9,ST=x y,L=New\u3000York,C=GB,OU=a=b ; c,O=R3" =
      .ok ⟨some "\u03a9", some "a=b ; c", "R3", "New\u3000York", some "x y", "GB"⟩ := by
    decide +kernel
  exact ⟨_, _, first, second, by decide +kernel, (names_round_trip.1 _ _ first).1,
    (names_round_trip.2.1 _ _ _ _ first second).mpr (by decide +kernel)⟩

end Rehearsal.Member
