import Rehearsal.OrderedMap

/-!
# Rebuilding maps

A map is rebuilt from its entries: each has a key above those before it, so it is put last.
-/

namespace Rehearsal

variable {κ β : Type} [LE κ] [LT κ] [DecidableLT κ] [DecidableEq κ] [Std.LawfulOrderLT κ]

/-- An entry whose key is above all others comes last. -/
theorem insertEntry_last {entries : List (κ × β)} {k : κ} (b : β)
    (above : ∀ e ∈ entries, e.1 < k) : insertEntry k b entries = entries ++ [(k, b)] := by
  induction entries with
  | nil => rfl
  | cons e entries ih =>
    have below := above e List.mem_cons_self
    have ne : k ≠ e.1 := fun eq => Std.lt_irrefl (eq ▸ below)
    rw [insertEntry, if_neg (Std.not_gt_of_lt below), if_neg ne,
      ih fun e' he' => above e' (List.mem_cons_of_mem _ he'), List.cons_append]

/-- Ascending entries that go on from those that are there come behind them. -/
theorem foldl_insertEntry {before entries : List (κ × β)}
    (ascending : (before ++ entries).Pairwise fun a b => a.1 < b.1) :
    entries.foldl (fun es e => insertEntry e.1 e.2 es) before = before ++ entries := by
  induction entries generalizing before with
  | nil => simp
  | cons e entries ih =>
    have last : insertEntry e.1 e.2 before = before ++ [e] :=
      insertEntry_last e.2 fun e' he' =>
        (List.pairwise_append.mp ascending).2.2 e' he' e List.mem_cons_self
    have all : before ++ [e] ++ entries = before ++ e :: entries := by
      rw [List.append_assoc, List.singleton_append]
    rw [List.foldl_cons, last, ih (all ▸ ascending), all]

/-- A map is rebuilt from its entries. -/
theorem OrderedMap.ofList_entries [Std.IsLinearOrder κ] (m : OrderedMap κ β) :
    ofList m.entries = m := by
  have same : (ofList m.entries).entries = m.entries :=
    (List.foldl_hom OrderedMap.entries fun _ _ => rfl).symm.trans (foldl_insertEntry m.ascending)
  cases rebuilt : ofList m.entries
  rw [rebuilt] at same
  cases m
  cases same
  rfl

end Rehearsal
