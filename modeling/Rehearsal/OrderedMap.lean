/-!
# Maps in key order

Entries in ascending order of their keys, one entry for a key. Inserting under a key that is there
replaces its value.
-/

namespace Rehearsal

section

variable {κ β : Type} [LT κ] [DecidableLT κ] [DecidableEq κ]

/-- Puts an entry at its place in a list of ascending keys. -/
def insertEntry (k : κ) (b : β) : List (κ × β) → List (κ × β)
  | [] => [(k, b)]
  | (k', b') :: rest =>
    if k < k' then (k, b) :: (k', b') :: rest
    else if k = k' then (k, b) :: rest
    else (k', b') :: insertEntry k b rest

theorem mem_insertEntry {k : κ} {b : β} {entries : List (κ × β)} {e : κ × β}
    (h : e ∈ insertEntry k b entries) : e = (k, b) ∨ e ∈ entries := by
  induction entries with
  | nil => simpa [insertEntry] using h
  | cons head rest ih =>
    obtain ⟨k', b'⟩ := head
    simp only [insertEntry] at h
    split at h
    · simpa using h
    · split at h
      · rcases List.mem_cons.1 h with rfl | h
        · exact .inl rfl
        · exact .inr (List.mem_cons_of_mem _ h)
      · rcases List.mem_cons.1 h with rfl | h
        · exact .inr List.mem_cons_self
        · exact (ih h).imp_right (List.mem_cons_of_mem _)

end

/-- A map whose entries stand in strictly ascending order of their keys. -/
structure OrderedMap (κ β : Type) [LT κ] where
  entries : List (κ × β)
  ascending : entries.Pairwise fun a b => a.1 < b.1

namespace OrderedMap

variable {κ β : Type}

/-- The map with no entry. -/
def empty [LT κ] : OrderedMap κ β := ⟨[], .nil⟩

instance [LT κ] : Inhabited (OrderedMap κ β) := ⟨empty⟩

variable [LE κ] [LT κ] [DecidableLT κ] [DecidableEq κ] [Std.IsLinearOrder κ] [Std.LawfulOrderLT κ]

theorem pairwise_insertEntry {entries : List (κ × β)} (k : κ) (b : β)
    (h : entries.Pairwise fun a b => a.1 < b.1) :
    (insertEntry k b entries).Pairwise fun a b => a.1 < b.1 := by
  induction entries with
  | nil => simp [insertEntry]
  | cons head rest ih =>
    obtain ⟨k', b'⟩ := head
    rw [List.pairwise_cons] at h
    simp only [insertEntry]
    split
    · next lt =>
      refine List.pairwise_cons.2 ⟨fun e he => ?_, List.pairwise_cons.2 h⟩
      rcases List.mem_cons.1 he with rfl | he
      · exact lt
      · exact Std.lt_trans lt (h.1 e he)
    · split
      · next eq => exact List.pairwise_cons.2 ⟨fun e he => eq ▸ h.1 e he, h.2⟩
      · next nlt ne =>
        refine List.pairwise_cons.2 ⟨fun e he => ?_, ih h.2⟩
        rcases mem_insertEntry he with rfl | he
        · exact Std.lt_of_le_of_ne (Std.not_lt.1 nlt) (Ne.symm ne)
        · exact h.1 e he

/-- The map with the entry, in place of any other entry of its key. -/
def insert (m : OrderedMap κ β) (k : κ) (b : β) : OrderedMap κ β :=
  ⟨insertEntry k b m.entries, pairwise_insertEntry k b m.ascending⟩

/-- The map of a list of entries; of two with one key the later counts. -/
def ofList (entries : List (κ × β)) : OrderedMap κ β :=
  entries.foldl (fun m e => m.insert e.1 e.2) empty

end OrderedMap

end Rehearsal
