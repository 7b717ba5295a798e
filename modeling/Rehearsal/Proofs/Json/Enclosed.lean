import Mathlib.Data.List.Forall2
import Rehearsal.Data.Encoding
import Rehearsal.Data.Reading
import Rehearsal.Proofs.Json.RoundTrip

/-!
# Reading back arrays and objects

An array is read back if its items are, and an object if each of its entries is: its key, and its
value as what the entry adds to those before it. Maps, structures and JSON objects are objects that
differ in their keys and in what an entry adds.
-/

namespace Rehearsal.Json

variable {κ β σ α : Type} {cs rest : List Char}

theorem itemChars_cons (j : Json) (js : List Json) :
    itemChars (j :: js) = j.chars ++ js.flatMap fun j => ',' :: j.chars := by
  induction js generalizing j with
  | nil => simp [itemChars]
  | cons k js ih => rw [itemChars, ih, List.flatMap_cons, List.cons_append]

/-- One field of an object. -/
def entryChars (f : String × Json) : List Char := stringText f.1 ++ ':' :: f.2.chars

theorem fieldChars_cons (f : String × Json) (fs : List (String × Json)) :
    fieldChars (f :: fs) = entryChars f ++ fs.flatMap fun f => ',' :: entryChars f := by
  induction fs generalizing f with
  | nil => simp [fieldChars, entryChars]
  | cons g fs ih =>
    rw [fieldChars, ih, List.flatMap_cons, List.cons_append]
    simp [entryChars]

theorem chars_array_append (js : List Json) (rest : List Char) :
    chars (.array js) ++ rest = '[' :: (itemChars js ++ ']' :: rest) := by simp [chars]

theorem chars_object_append (fs : List (String × Json)) (rest : List Char) :
    chars (.object fs) ++ rest = '\x7b' :: (fieldChars fs ++ '\x7d' :: rest) := by simp [chars]

/-- Behind one part of an array or an object comes a comma or what closes it. -/
theorem stops_parts {ι : Type} (close : Char) (closes : close ∈ [',', ']', '\x7d', '"'])
    (text : ι → List Char) (parts : List ι) (rest : List Char) :
    Stops ((parts.flatMap fun part => ',' :: text part) ++ close :: rest) := by
  cases parts with
  | nil => exact .mark closes
  | cons part parts => exact .mark (by simp)

/-! ## Arrays -/

section

variable {item : Reader α} {a : α} {as : List α} {js : List Json}

/-- The texts of these values are read back as those, item by item. -/
abbrev ReadsEach (item : Reader α) : List Json → List α → Prop :=
  List.Forall₂ fun j a => Reads item j.chars a

theorem itemAhead_item (opens : ∃ c others, cs = c :: others ∧ isSpace c = false ∧ c ≠ ']')
    (first : Bool) (rest : List Char) :
    itemAhead first ((if first then [] else [',']) ++ (cs ++ rest)) = .ok (true, cs ++ rest) := by
  obtain ⟨c, others, rfl, solid, bracket⟩ := opens
  cases first with
  | true =>
    rw [if_pos rfl, List.nil_append, List.cons_append, itemAhead, skipSpace_cons solid]
    split
    · next h => cases h
    · next h => exact absurd (List.cons.inj h).1 bracket
    · next h =>
      cases h
      rfl
  | false =>
    rw [if_neg Bool.false_ne_true, List.singleton_append, List.cons_append, itemAhead,
      skipSpace_cons (c := ',') (by decide)]
    split
    · next h => cases h
    · next h => exact absurd (List.cons.inj h).1 (by decide)
    · next h =>
      cases h
      rw [if_neg Bool.false_ne_true, if_pos rfl, skipSpace_cons solid]
      split
      · next h => cases h
      · next h => exact absurd (List.cons.inj h).1 bracket
      · rfl

theorem itemsTurn_item (reads : Reads item cs a) (read : List α) (stops : Stops rest) :
    itemsTurn item read ((if read.isEmpty then [] else [',']) ++ (cs ++ rest)) =
      .ok (.again (a :: read), rest) := by
  rw [itemsTurn, Reader.bind, itemAhead_item reads.opens]
  dsimp only
  rw [if_pos rfl, Reader.map, Reader.bind, reads.read rest stops]

/-- All items of an array that are not the first, each behind a comma. -/
theorem loops_items (each : ReadsEach item js as) {read : List α} (some : read ≠ [])
    (rest : List Char) : Loops (itemsTurn item) read
      ((js.flatMap fun j => ',' :: j.chars) ++ ']' :: rest) (read.reverse ++ as)
      (']' :: rest) := by
  have later : read.isEmpty = false := by simpa using some
  induction each generalizing read with
  | nil =>
    refine .done ?_
    rw [List.append_nil, itemsTurn, later]
    rfl
  | @cons j a js as reads each ih =>
    have turn := itemsTurn_item reads read
      (stops_parts ']' (by simp) chars js rest)
    rw [later, if_neg Bool.false_ne_true, List.singleton_append] at turn
    rw [List.flatMap_cons, List.append_assoc, List.cons_append]
    refine .again turn ?_ ?_
    · simp only [List.length_append, List.length_cons]
      omega
    · have others := @ih (a :: read) (by simp) rfl
      rwa [List.reverse_cons, List.append_assoc] at others

/-- **An array** is read back if its items are. -/
theorem Reads.list (each : ReadsEach item js as) :
    Reads (listReader item) (chars (.array js)) as where
  opens := ⟨'[', _, by rw [chars, List.cons_append], rfl, by decide⟩
  read rest _ := by
    have loops : Loops (itemsTurn item) [] (itemChars js ++ ']' :: rest) as (']' :: rest) := by
      cases each with
      | nil => exact .done rfl
      | @cons j a js as reads each =>
        rw [itemChars_cons, List.append_assoc]
        refine .again (itemsTurn_item reads []
          (stops_parts ']' (by simp) chars js rest)) ?_
          (loops_items each (by simp) rest)
        obtain ⟨c, others, written, -⟩ := reads.opens
        simp only [written, List.length_append, List.length_cons]
        omega
    rw [chars_array_append]
    show listTail item (itemChars js ++ ']' :: rest) = _
    rw [listTail, Reader.bind, loops.loop_eq]
    rfl

/-- The text of an array of two items. -/
theorem Reads.pair {first : Reader α} {second : Reader β} {x y : Json} {a : α} {b : β}
    (readsFirst : Reads first x.chars a) (readsSecond : Reads second y.chars b) :
    Reads (pairReader first second) (chars (.array [x, y])) (a, b) where
  opens := ⟨'[', _, by rw [chars, List.cons_append], rfl, by decide⟩
  read rest _ := by
    have one : itemAt "a tuple of size 2" 0 first (x.chars ++ ',' :: (y.chars ++ ']' :: rest)) =
        .ok (a, ',' :: (y.chars ++ ']' :: rest)) := by
      have ahead := itemAhead_item readsFirst.opens true (',' :: (y.chars ++ ']' :: rest))
      rw [if_pos rfl, List.nil_append] at ahead
      rw [itemAt, Reader.bind, show (0 == 0) = true from rfl, ahead]
      exact readsFirst.read _ (.mark (by simp))
    have two : itemAt "a tuple of size 2" 1 second (',' :: (y.chars ++ ']' :: rest)) =
        .ok (b, ']' :: rest) := by
      have ahead := itemAhead_item readsSecond.opens false (']' :: rest)
      rw [if_neg Bool.false_ne_true, List.singleton_append] at ahead
      rw [itemAt, Reader.bind, show (1 == 0) = false from rfl, ahead]
      exact readsSecond.read _ (.mark (by simp))
    have items : itemChars [x, y] ++ ']' :: rest = x.chars ++ ',' :: (y.chars ++ ']' :: rest) := by
      simp [itemChars]
    rw [chars_array_append, items]
    show ((itemAt "a tuple of size 2" 0 first).bind fun a =>
      (itemAt "a tuple of size 2" 1 second).bind fun b => endList.map fun _ => (a, b)) _ = _
    rw [Reader.bind, one]
    dsimp only
    rw [Reader.bind, two]
    rfl

end

/-! ## Objects -/

section

variable {key : Reader κ} {entry : κ → σ → Reader σ} {s s' last : σ} {fs : List (String × Json)}

/-- From one state to another, the entries of an object are read back one by one. -/
inductive Fills (key : Reader κ) (entry : κ → σ → Reader σ) :
    List (String × Json) → σ → σ → Prop where
  | nil {s : σ} : Fills key entry [] s s
  | cons {name : String} {j : Json} {fs : List (String × Json)} {s s' last : σ} (k : κ)
      (keyed : ∀ rest, key (stringText name ++ rest) = .ok (k, rest))
      (reads : ∀ rest, Stops rest → entry k s (':' :: (j.chars ++ rest)) = .ok (s', rest))
      (others : Fills key entry fs s' last) : Fills key entry ((name, j) :: fs) s last

theorem keyAhead_text (first : Bool) (name : String) (rest : List Char) :
    keyAhead first ((if first then [] else [',']) ++ (stringText name ++ rest)) =
      .ok (true, stringText name ++ rest) := by
  rw [stringText_append]
  cases first <;> rfl

/-- The entries of an object, each but the first behind a comma. -/
theorem Fills.loops (fills : Fills key entry fs s last) (first : Bool) (rest : List Char) :
    Loops (entriesTurn key entry) (first, s)
      ((if first then fieldChars fs else fs.flatMap fun f => ',' :: entryChars f) ++ '\x7d' :: rest)
      last ('\x7d' :: rest) := by
  induction fills generalizing first with
  | nil => cases first <;> exact .done rfl
  | @cons name j fs s s' last k keyed reads others ih =>
    have stops := stops_parts '\x7d' (by simp) entryChars fs rest
    have text : (if first then fieldChars ((name, j) :: fs)
          else ((name, j) :: fs).flatMap fun f => ',' :: entryChars f) ++ '\x7d' :: rest =
        (if first then [] else [',']) ++ (stringText name ++ ':' :: (j.chars ++
          ((fs.flatMap fun f => ',' :: entryChars f) ++ '\x7d' :: rest))) := by
      cases first
      · simp [entryChars]
      · simp [fieldChars_cons, entryChars]
    rw [text]
    refine .again ?_ ?_ (ih false)
    · rw [entriesTurn, Reader.bind, keyAhead_text]
      dsimp only
      rw [if_pos rfl, Reader.bind, keyed]
      dsimp only
      rw [Reader.map, Reader.bind, reads _ stops]
      rfl
    · simp only [List.length_append, List.length_cons, if_neg Bool.false_ne_true]
      omega

theorem Fills.objectTail (fills : Fills key entry fs s last) (rest : List Char) :
    objectTail key entry s (fieldChars fs ++ '\x7d' :: rest) = .ok (last, rest) := by
  have loops := fills.loops true rest
  rw [if_pos rfl] at loops
  rw [Json.objectTail, Reader.bind, loops.loop_eq]
  rfl

theorem opens_object (fs : List (String × Json)) :
    ∃ c others, chars (.object fs) = c :: others ∧ isSpace c = false ∧ c ≠ ']' :=
  ⟨'\x7b', _, by rw [chars, List.cons_append], rfl, by decide⟩

/-! ### Maps -/

variable {item : Reader β} {add : σ → κ → β → σ} {entries : List (κ × β)}

/-- The fields of an object are read back as these entries, one by one. -/
abbrev ReadsEntries (key : Reader κ) (item : Reader β) :
    List (String × Json) → List (κ × β) → Prop :=
  List.Forall₂ fun f e => (∀ rest, key (stringText f.1 ++ rest) = .ok (e.1, rest)) ∧
    Reads item f.2.chars e.2

theorem ReadsEntries.fills (each : ReadsEntries key item fs entries) (s : σ) :
    Fills key (fun k s => colon.bind fun _ => item.map fun b => add s k b) fs s
      (entries.foldl (fun s e => add s e.1 e.2) s) := by
  induction each generalizing s with
  | nil => exact .nil
  | @cons f e fs entries both each ih =>
    refine .cons e.1 both.1 (fun rest stops => ?_) (ih _)
    show (item.map fun b => add s e.1 b) (f.2.chars ++ rest) = _
    rw [Reader.map, Reader.bind, both.2.read rest stops]

/-- **A map** is read back as what its entries add up to. -/
theorem Reads.map_entries (each : ReadsEntries key item fs entries) (start : σ) :
    Reads (mapReader key item start add) (chars (.object fs))
      (entries.foldl (fun s e => add s e.1 e.2) start) where
  opens := opens_object fs
  read rest _ := by
    rw [chars_object_append]
    exact (each.fills start).objectTail rest

/-! ### Structures -/

variable {fields : List (FieldReader σ)} {name : String}

/-- A field is read back, unless it was read before. -/
theorem fieldEntry_new {field : FieldReader σ} (known : fields.find? (·.name == name) = some field)
    (new : field.isSet s = false) (reads : Reads (field.read s) cs s') (stops : Stops rest) :
    fieldEntry fields name s (':' :: (cs ++ rest)) = .ok (s', rest) := by
  rw [fieldEntry, known]
  dsimp only
  rw [new, if_neg Bool.false_ne_true]
  exact reads.read rest stops

theorem Fills.field (field : FieldReader σ) {j : Json}
    (known : fields.find? (·.name == name) = some field) (new : field.isSet s = false)
    (reads : Reads (field.read s) j.chars s')
    (others : Fills stringKey (fieldEntry fields) fs s' last) :
    Fills stringKey (fieldEntry fields) ((name, j) :: fs) s last :=
  .cons name (stringKey_text name) (fun _ stops => fieldEntry_new known new reads stops) others

theorem Reads.string (expected value : String) :
    Reads (textReader expected) (chars (.string value)) value where
  opens := ⟨'"', _, by rw [chars, stringText, List.cons_append], rfl, by decide⟩
  read rest _ := by
    rw [chars, stringText_append]
    exact stringTail_escaped value rest

theorem Reads.textField {get : σ → Option String} {set : σ → String → σ} (s : σ)
    (value : String) :
    Reads ((textField name get set).read s) (chars (.string value)) (set s value) :=
  (Reads.string "a string" value).map (set s)

/-- **A structure** is read back from an object if its fields are. -/
theorem Reads.struct {start : σ} {finish : σ → Except Fault α} {a : α} (name : String)
    (fills : Fills stringKey (fieldEntry fields) fs start last) (finished : finish last = .ok a) :
    Reads (structReader name fields start finish) (chars (.object fs)) a where
  opens := opens_object fs
  read rest _ := by
    rw [chars_object_append]
    show ((Json.objectTail stringKey (fieldEntry fields) start).bind fun s => settle (finish s))
      (fieldChars fs ++ '\x7d' :: rest) = _
    rw [Reader.bind, fills.objectTail rest]
    dsimp only
    rw [finished]
    rfl

end

end Rehearsal.Json
