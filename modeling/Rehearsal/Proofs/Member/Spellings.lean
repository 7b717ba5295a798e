import Mathlib.Logic.Relation
import Rehearsal.Proofs.Member.Grammar
import Rehearsal.Proofs.World.Outcomes
import Rehearsal.Scenario.Command

/-!
# Spellings of a member name

The order of the parts of a text, the case of its keys, and blanks around keys and values do not
matter: two texts that differ in these alone name the same member or both name nobody. `Respells`
is one such change and `Respelled` any number of them, in either direction. A change within a part
is not seen by reading the part. A new order is seen while parts are collected, where the first
fault is reported, but not by what well-formed parts are and give.
-/

namespace Rehearsal.Member

/-! ## Changes -/

/-- A part that is written another way. -/
inductive PartRespells : List Char → List Char → Prop where
  /-- Some letters of the key are in another case. -/
  | recased {key key' : List Char} (signless : '=' ∉ key)
      (alike : key'.map Char.toUpper = key.map Char.toUpper) (behind : List Char) :
      PartRespells (key ++ '=' :: behind) (key' ++ '=' :: behind)
  | keyPadded {key left right : List Char} (signless : '=' ∉ key)
      (blankLeft : ∀ c ∈ left, Text.isBlank c) (blankRight : ∀ c ∈ right, Text.isBlank c)
      (behind : List Char) :
      PartRespells (key ++ '=' :: behind) (left ++ key ++ right ++ '=' :: behind)
  | valuePadded {key left right : List Char} (signless : '=' ∉ key)
      (blankLeft : ∀ c ∈ left, Text.isBlank c) (blankRight : ∀ c ∈ right, Text.isBlank c)
      (behind : List Char) :
      PartRespells (key ++ '=' :: behind) (key ++ '=' :: (left ++ behind ++ right))

/-- Parts that are in another order, or one of which is written another way. -/
inductive Respells : List (List Char) → List (List Char) → Prop where
  | reordered {parts parts' : List (List Char)} (order : parts.Perm parts') : Respells parts parts'
  | part {part part' : List Char} (change : PartRespells part part')
      (before after : List (List Char)) :
      Respells (before ++ part :: after) (before ++ part' :: after)

/-- One text comes from the other by changes that are made or undone one after the other. -/
def Respelled (s s' : String) : Prop := Relation.EqvGen Respells (partsOf s) (partsOf s')

/-! ## Changes within a part -/

theorem toUpper_eq_sign {c : Char} : c.toUpper = '=' ↔ c = '=' := by
  constructor
  · intro upper
    rcases Text.toUpper_cases c with same | ⟨low, high, moved⟩
    · exact same.symm.trans upper
    · rw [upper, show '='.toNat = 0x3d from rfl] at moved
      omega
  · rintro rfl
    rfl

theorem sign_mem_map_toUpper {key : List Char} : '=' ∈ key.map Char.toUpper ↔ '=' ∈ key := by
  simp [toUpper_eq_sign]

/-- Blanks hold no sign. -/
theorem sign_not_mem_of_blank {blanks : List Char} (h : ∀ c ∈ blanks, Text.isBlank c) :
    '=' ∉ blanks :=
  fun sign => absurd (h _ sign) (by decide)

/-- The key that is compared is the trimmed upper-case text. -/
theorem keyText_eq (key : List Char) :
    keyText key = String.ofList (Text.trim (key.map Char.toUpper)) :=
  congrArg String.ofList (Text.trim_map_toUpper key).symm

/-- Reading does not tell the ways in which a part is written apart. -/
theorem PartRespells.parsePart_eq {part part' : List Char} (h : PartRespells part part') :
    parsePart part = parsePart part' := by
  cases h with
  | recased signless alike behind =>
    have signless' := signless
    rw [← sign_mem_map_toUpper, ← alike, sign_mem_map_toUpper] at signless'
    rw [parsePart_divided signless, parsePart_divided signless', keyText_eq, ← alike, keyText_eq]
  | @keyPadded key left right signless blankLeft blankRight behind =>
    have signless' : '=' ∉ left ++ key ++ right := by
      simp [signless, sign_not_mem_of_blank blankLeft, sign_not_mem_of_blank blankRight]
    rw [parsePart_divided signless, parsePart_divided signless', keyText, keyText,
      Text.trim_pad blankLeft blankRight]
  | valuePadded signless blankLeft blankRight behind =>
    rw [parsePart_divided signless, parsePart_divided signless, Text.trim_pad blankLeft blankRight]

/-- A part can stand for another that is read alike. -/
theorem ofParts_congr {part part' : List Char} (same : parsePart part = parsePart part')
    (before after : List (List Char)) :
    ofParts (before ++ part :: after) = ofParts (before ++ part' :: after) := by
  have alike : (collect · (part :: after)) = (collect · (part' :: after)) := by
    funext given
    rw [collect, collect, same]
  rw [ofParts, ofParts, collect_append, collect_append, alike]

/-! ## Another order -/

variable {parts parts' : List (List Char)}

theorem given_perm (order : parts.Perm parts') {a : Attribute} :
    Given parts a ↔ Given parts' a := by
  simp only [Given, order.mem_iff]

/-- In any order parts are orderly. -/
theorem Orderly.perm (h : Orderly parts) (order : parts.Perm parts') : Orderly parts' where
  gives part hp := h.gives part (order.mem_iff.mpr hp)
  once := by
    refine (order.pairwise_iff ?_).mp h.once
    exact fun apart a value value' here there => apart a value' value there here

theorem WellFormed.perm (h : WellFormed parts) (order : parts.Perm parts') : WellFormed parts' where
  orderly := h.orderly.perm order
  complete a ha := (given_perm order).mp (h.complete a ha)
  country part hp := h.country part (order.mem_iff.mpr hp)

/-- Parts name the same member in any order. -/
theorem ofParts_perm (order : parts.Perm parts') {m : Member} :
    ofParts parts = .ok m ↔ ofParts parts' = .ok m := by
  have formed : WellFormed parts ↔ WellFormed parts' := ⟨(·.perm order), (·.perm order.symm)⟩
  simp only [ofParts_eq_ok, formed, order.mem_iff]

/-! ## All changes -/

/-- No change makes parts name another member, or nobody. -/
theorem Respells.ofParts_iff (h : Respells parts parts') {m : Member} :
    ofParts parts = .ok m ↔ ofParts parts' = .ok m := by
  cases h with
  | reordered order => exact ofParts_perm order
  | part change before after => rw [ofParts_congr change.parsePart_eq before after]

/-- Nor do any number of them. -/
theorem ofParts_iff_of_changes (h : Relation.EqvGen Respells parts parts') {m : Member} :
    ofParts parts = .ok m ↔ ofParts parts' = .ok m := by
  induction h with
  | rel _ _ change => exact change.ofParts_iff
  | refl _ => exact Iff.rfl
  | symm _ _ _ ih => exact ih.symm
  | trans _ _ _ _ _ first second => exact first.trans second

theorem Respelled.read_iff {s s' : String} (h : Respelled s s') {m : Member} :
    read s = .ok m ↔ read s' = .ok m := by
  rw [read_eq_ok, read_eq_ok, parse_eq_ofParts, parse_eq_ofParts]
  exact ofParts_iff_of_changes h

/-- **Spelling does not matter.** Of two spellings both are read or none is, and then as the same
name. So it does not matter with which of them a session is opened: everything comes out alike, and
with either the session is found that was attached last for the member. -/
theorem Respelled.same_member {s s' : String} (h : Respelled s s') :
    (∀ m, read s = .ok m ↔ read s' = .ok m) ∧
    ∀ m, read s = .ok m →
      (∀ me r session, (Command.initiate r s session).run me =
        (Command.initiate r s' session).run me) ∧
      ∀ (w : World) (n : MockId) (x : Session), x.counterparty = m → ∀ spelling ∈ [s, s'],
        ((Act.ask fun _ => read spelling) >>= Act.initiate n) (w.attach n x) =
          (.ok x, (Act.initiate n m (w.attach n x)).2) := by
  refine ⟨fun m => h.read_iff, fun m named => ⟨fun me r session => ?_, fun w n x ours => ?_⟩⟩
  · have same : read s = read s' := named.trans (h.read_iff.mp named).symm
    simp only [Command.run, Play.member, same]
  · intro spelling either
    have names : read spelling = .ok m := by
      rcases List.mem_pair.mp either with rfl | rfl
      · exact named
      · exact h.read_iff.mp named
    have attached : ((w.attach n x).messagings.get n).session m = .ok x := by
      obtain ⟨_, _, same⟩ := World.attach_eq w n x
      rw [same, Store.modify]
      simp [Messaging.session, Messaging.session?, Messaging.attach, ours]
    rw [bind_apply, ask_apply, names]
    dsimp only
    rw [Act.initiate_apply, attached]

/-- A text with another order, case and blanks, one of them an ideographic space. -/
theorem respelled_york : Respelled "O=R3,L=York,C=GB" "c=GB,O=R3,L =\u3000York" := by
  have order : Respells ["O=R3".toList, "L=York".toList, "C=GB".toList]
      ["C=GB".toList, "O=R3".toList, "L=York".toList] := .reordered (by decide)
  have lower : PartRespells "C=GB".toList "c=GB".toList :=
    .recased (by decide : '=' ∉ ['C']) (by decide : ['c'].map Char.toUpper = _) "GB".toList
  have padKey : PartRespells "L=York".toList "L =York".toList :=
    .keyPadded (by decide : '=' ∉ ['L']) (List.forall_mem_nil _)
      (List.forall_mem_singleton.mpr (by decide : Text.isBlank ' ' = true)) "York".toList
  have padValue : PartRespells "L =York".toList "L =\u3000York".toList :=
    .valuePadded (by decide : '=' ∉ ['L', ' '])
      (List.forall_mem_singleton.mpr (by decide : Text.isBlank '\u3000' = true))
      (List.forall_mem_nil _) "York".toList
  exact .trans _ _ _ (.rel _ _ order) (.trans _ _ _ (.rel _ _ (.part lower [] _))
    (.trans _ _ _ (.rel _ _ (.part padKey ["c=GB".toList, "O=R3".toList] []))
      (.rel _ _ (.part padValue ["c=GB".toList, "O=R3".toList] []))))

theorem same_member_york : ∃ york : Member, ∃ w : World, ∃ x : Session,
    read "O=R3,L=York,C=GB" = .ok york ∧ read "c=GB,O=R3,L =\u3000York" = .ok york ∧
    x.counterparty = york ∧
    (((Act.ask fun _ => read "c=GB,O=R3,L =\u3000York") >>= Act.initiate 1) (w.attach 1 x)).1 =
      .ok x := by
  let york : Member := ⟨none, none, "R3", "York", none, "GB"⟩
  have named : read "O=R3,L=York,C=GB" = .ok york := read_eq_ok.mpr (by decide +kernel)
  obtain ⟨same, opened⟩ := respelled_york.same_member
  refine ⟨york, {}, ⟨0, .a, york, york⟩, named, (same york).mp named, rfl, ?_⟩
  rw [(opened york named).2 {} 1 ⟨0, .a, york, york⟩ rfl _ (by simp)]

end Rehearsal.Member
