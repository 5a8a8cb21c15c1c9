import Conformance.Number.Rounding
import Conformance.Text.CellWidth

/-!
# Widths of columns

A table of columns is made as wide as its texts need, and if that is too wide, its widest
columns are narrowed until the table fits. What a column loses is shared among equally wide
columns from left to right; a share that is no integer is rounded to the nearest one, and a
half to the even one.
-/

namespace Conformance.Report

/-- A character that ends a line when the width of a text is measured. -/
def isLineEnd (c : Char) : Bool :=
  [0xa, 0xb, 0xc, 0xd, 0x1c, 0x1d, 0x1e, 0x85, 0x2028, 0x2029].contains c.toNat

/-- The lines of a text whose current line goes on behind `line`. -/
def measuredLines : (line : List Char) → List Char → List (List Char)
  | line, [] => [line.reverse]
  | line, c :: cs =>
    if isLineEnd c then line.reverse :: measuredLines [] cs else measuredLines (c :: line) cs

/-- The width of the widest line of a text. -/
def widest (cs : List Char) : Nat := ((measuredLines [] cs).map Text.cells).foldl max 0

/-- The blanks on both sides of a cell. -/
def padding : Nat := 2

/-- The width of a cell that may be at most `limit` wide. A cell that has no room for its text
is as wide as it may be. -/
def cellMeasure (limit : Nat) (cs : List Char) : Nat :=
  if limit < padding + 1 then limit else min limit (min limit (widest cs) + padding)

/-- The width of a column whose cells hold the given texts. -/
def columnMeasure (limit : Nat) (texts : List (List Char)) : Nat :=
  (texts.map (cellMeasure limit)).foldl max 0

/-- Takes `total` away from the marked widths, shared equally and at most `most` from each. -/
def reduce (most : Nat) : (total shares : Nat) → List (Nat × Bool) → List Nat
  | _, _, [] => []
  | total, shares, (w, marked) :: ws =>
    if marked ∧ shares ≠ 0 ∧ most ≠ 0 then
      let part := min most (Number.roundDiv total shares)
      (w - part) :: reduce most (total - part) (shares - 1) ws
    else w :: reduce most total shares ws

/-- The width of a table with columns of these widths. -/
def tableWidth (ws : List Nat) : Nat := ws.foldr (· + ·) 0

/-- The widths with the widest ones marked. -/
def markWidest (ws : List Nat) : List (Nat × Bool) :=
  ws.map fun w => (w, w == ws.foldl max 0)

/-- The widest width below the widest one, or zero. -/
def secondWidest (ws : List Nat) : Nat := (ws.filter (· != ws.foldl max 0)).foldl max 0

/-- Narrows the widest columns down to the second widest, until the table is at most `limit`
wide or `steps` have been made. -/
def collapse (limit : Nat) : (steps : Nat) → List Nat → List Nat
  | 0, ws => ws
  | steps + 1, ws =>
    if tableWidth ws ≤ limit then ws
    else
      let most := min (tableWidth ws - limit) (ws.foldl max 0 - secondWidest ws)
      let marked := markWidest ws
      collapse limit steps
        (reduce most (tableWidth ws - limit) (marked.countP Prod.snd) marked)

/-- The widths of the columns of a table that may be at most `limit` wide. Columns that had to
be narrowed are measured once more. -/
def columnWidths (limit : Nat) (columns : List (List (List Char))) : List Nat :=
  let natural := (columns.map (columnMeasure limit)).map (max 1)
  if tableWidth natural ≤ limit then natural
  else
    let narrow := collapse limit (tableWidth natural) natural
    (narrow.zip columns).map fun e => columnMeasure e.1 e.2

end Conformance.Report
