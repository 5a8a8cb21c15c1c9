import Conformance.Report.Wrap

/-!
# The rule above a report

A horizontal line as wide as the report, with a title in the middle. A title that is too long
is shortened, and a line that has no room for one goes without.
-/

namespace Conformance.Report

/-- The character that the rule is drawn with. -/
def ruleChar : Char := '─'

/-- The style of the rule. -/
def ruleStyle : Style := [92]

/-- The style of the title. -/
def titleStyle : Style := [1]

/-- `n` characters of the rule. -/
def dashes (n : Nat) : List Char := List.replicate n ruleChar

/-- The columns that are kept free of the title. -/
def ruleEnds : Nat := 4

/-- The columns on the left of the title, across `w` columns. -/
def sideWidth (title : List Char) (w : Nat) : Nat :=
  (w - width (shorten (w - ruleEnds) (run titleStyle title))) / 2

/-- The rule across `w` columns. -/
def rule (title : List Char) (w : Nat) : Line :=
  if w ≤ ruleEnds then run ruleStyle (dashes w)
  else
    let shown := shorten (w - ruleEnds) (run titleStyle title)
    let side := sideWidth title w
    let right := min (side + 1) (w - (side - 1) - width shown)
    crop w (run ruleStyle (dashes (side - 1) ++ [' ']) ++ shown ++
      run ruleStyle (' ' :: dashes right))

end Conformance.Report
