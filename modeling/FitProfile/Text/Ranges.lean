/-!
# FitProfile.Text.Ranges -- sets of code points as closed ranges

A character property beyond ASCII is a table of closed ranges. This module says what it
means for a code point to lie in such a table.
-/

namespace FitProfile.Text

/-- Whether `n` lies in one of the closed ranges. -/
def inRanges (ranges : List (Nat × Nat)) (n : Nat) : Bool :=
  ranges.any fun r => decide (r.1 ≤ n) && decide (n ≤ r.2)

theorem inRanges_iff {ranges : List (Nat × Nat)} {n : Nat} :
    inRanges ranges n = true ↔ ∃ r ∈ ranges, r.1 ≤ n ∧ n ≤ r.2 := by
  simp [inRanges]

end FitProfile.Text
