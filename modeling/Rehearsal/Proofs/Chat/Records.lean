import Rehearsal.Proofs.Json.Enclosed
import Rehearsal.Proofs.Lists
import Rehearsal.Proofs.World.Changes

/-!
# Requests and records of a chat

A chat request is read back from its JSON text whatever recipient and message it names, and a chat
record is read back from the store that keeps it. Stores hold nothing under the kind of chat records
that is none, so all records of a store can always be found.
-/

namespace Rehearsal

namespace Chat

open Json (Reads Fills stringTail_escaped)

theorem Direction.ofName_name (d : Direction) : ofName d.name = .ok d := by
  cases d <;> rfl

theorem Direction.reads (d : Direction) : Reads reader (Json.chars (.string d.name)) d where
  opens := ⟨'"', _, by rw [Json.chars, Json.stringText, List.cons_append], rfl, by decide⟩
  read rest _ := by
    rw [Json.chars, Json.stringText_append]
    show (Json.stringTail.bind fun s => Json.settle (ofName s)) _ = _
    rw [Json.Reader.bind, stringTail_escaped]
    dsimp only
    rw [ofName_name]
    rfl

/-- **A request** is read back from its JSON text. -/
theorem Request.reads (r : Request) : Reads reader r.toJson.chars r :=
  .struct _ (.field recipientField rfl rfl (.textField _ _)
    (.field messageField rfl rfl (.textField _ _) .nil)) rfl

theorem Request.parse_text (r : Request) : Kind.chatRequest.parse r.toJson.text = .ok r :=
  r.reads.whole

theorem Message.reads (m : Message) : Reads reader m.toJson.chars m :=
  .struct _ (.field messageField rfl rfl (.textField _ _) .nil) rfl

/-- **A record** is read back from its JSON text. -/
theorem Record.reads (r : Record) : Reads reader r.toJson.chars r :=
  .struct _ (.field directionField rfl rfl (r.direction.reads.map _)
    (.field ownField rfl rfl (.textField _ _)
      (.field counterpartyField rfl rfl (.textField _ _)
        (.field messageField rfl rfl (.textField _ _) .nil)))) rfl

/-- A record is read back from its JSON. -/
theorem Record.ofJson_toJson (r : Record) : Record.ofJson r.toJson = .ok r := by
  cases r with
  | mk direction own counterparty message => cases direction <;> rfl

end Chat

/-! ## Stores -/

namespace Persistence

variable {store : Persistence}

/-- Whatever a store holds as a chat record is one. -/
def Legible (store : Persistence) : Prop :=
  ∀ j ∈ store.ofKind .chatRecord, ∃ r : Chat.Record, j = r.toJson

theorem Legible.empty : ({} : Persistence).Legible := by
  intro j hj
  cases hj

theorem Legible.add (h : store.Legible) {p : Payload} {j : Json} (stored : stored p = .ok j) :
    (store.add p.kind j).Legible := by
  intro j' hj
  rw [ofKind, Persistence.add, List.filter_append, List.map_append] at hj
  rcases List.mem_append.mp hj with old | new
  · exact h j' old
  · obtain ⟨k, v⟩ := p
    by_cases hk : k = .chatRecord
    · subst hk
      cases stored
      refine ⟨v, ?_⟩
      simpa using new
    · simp [hk] at new

/-- All chat records of a store are found. -/
theorem Legible.findAll (h : store.Legible) : ∃ records : List Chat.Record,
    store.ofKind .chatRecord = records.map Chat.Record.toJson ∧
      store.findAll .chatRecord = .ok records := by
  have all : ∀ js : List Json, (∀ j ∈ js, ∃ r : Chat.Record, j = r.toJson) →
      ∃ records : List Chat.Record, js = records.map Chat.Record.toJson := by
    intro js
    induction js with
    | nil => exact fun _ => ⟨[], rfl⟩
    | cons j js ih =>
      intro each
      obtain ⟨r, rfl⟩ := each j (List.mem_cons_self ..)
      obtain ⟨records, rfl⟩ := ih fun j hj => each j (List.mem_cons_of_mem _ hj)
      exact ⟨r :: records, rfl⟩
  obtain ⟨records, same⟩ := all _ h
  refine ⟨records, same, ?_⟩
  rw [Persistence.findAll, same]
  exact mapM_map_ok Chat.Record.ofJson_toJson records

/-- A chat record that is added is found behind those that were there. -/
theorem findAll_append {store' : Persistence} {records new : List Chat.Record}
    (h : store.Legible) (found : store.findAll .chatRecord = .ok records)
    (more : store'.entities = store.entities ++ new.map fun r => (.chatRecord, r.toJson)) :
    store'.findAll .chatRecord = .ok (records ++ new) := by
  obtain ⟨records', same, found'⟩ := h.findAll
  rw [found] at found'
  cases found'
  have all : store'.ofKind .chatRecord = (records ++ new).map Chat.Record.toJson := by
    have kinds : (new.map fun r => (Kind.chatRecord, r.toJson)).filter
        (fun e => e.1 == .chatRecord) = new.map fun r => (.chatRecord, r.toJson) :=
      List.filter_eq_self.mpr (by simp)
    rw [ofKind, more, List.filter_append, List.map_append, List.map_append, ← same, kinds, ofKind,
      List.map_map]
    rfl
  rw [Persistence.findAll, all]
  exact mapM_map_ok Chat.Record.ofJson_toJson _

end Persistence

namespace World

variable {w w' : World}

/-- What the stores of a world hold as chat records are chat records. -/
def Legible (w : World) : Prop := ∀ m, (w.persistences.get m).Legible

theorem Change.legible (change : w.Change w') (h : w.Legible) : w'.Legible := by
  have same : w'.persistences = w.persistences → w'.Legible := fun he m => he ▸ h m
  cases change with
  | kept m stored =>
    intro m'
    rw [Store.get_modify]
    split
    · exact (h m').add stored
    · exact h m'
  | closed =>
    refine same ?_
    unfold sealRegistry
    dsimp only
    split <;> rfl
  | attached =>
    refine same ?_
    unfold attach
    dsimp only
    split <;> rfl
  | looked =>
    refine same ?_
    unfold lookFor
    dsimp only
    split <;> rfl
  | built =>
    refine same ?_
    rw [addRegistry_freshServices]
  | _ => exact same rfl

theorem Changes.legible (changes : w.Changes w') (h : w.Legible) : w'.Legible := by
  induction changes with
  | refl => exact h
  | tail _ change ih => exact change.legible ih

end World

end Rehearsal
