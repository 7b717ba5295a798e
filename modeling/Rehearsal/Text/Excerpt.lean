/-!
# Excerpts

Whether one text stands somewhere inside another.
-/

namespace Rehearsal.Text

/-- Whether `excerpt` stands in the text without a gap. -/
def occursIn (excerpt : List Char) : List Char → Bool
  | [] => excerpt.isEmpty
  | c :: cs => excerpt.isPrefixOf (c :: cs) || occursIn excerpt cs

theorem occursIn_iff {excerpt cs : List Char} : occursIn excerpt cs = true ↔ excerpt <:+: cs := by
  induction cs with
  | nil => simp [occursIn]
  | cons c cs ih => simp [occursIn, ih, List.infix_cons_iff]

end Rehearsal.Text
