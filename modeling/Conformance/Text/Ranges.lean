/-!
# Ranges of code points

A property of characters that follows no rule is given by a table: the closed ranges of
code points that have it, in increasing order. `inRanges` reads such a table.
-/

namespace Conformance.Text

/-- The code point `n` lies in one of the closed ranges `rs`. -/
def inRanges (rs : List (Nat × Nat)) (n : Nat) : Bool :=
  rs.any fun r => r.1 ≤ n && n ≤ r.2

theorem inRanges_iff {rs : List (Nat × Nat)} {n : Nat} :
    inRanges rs n = true ↔ ∃ r ∈ rs, r.1 ≤ n ∧ n ≤ r.2 := by
  simp [inRanges]

end Conformance.Text
