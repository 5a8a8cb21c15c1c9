import Conformance.Report.Columns
import Conformance.Report.Markup
import Conformance.Report.Wrap

/-!
# Tables of two columns

Each row names a field and gives its value. Every cell has a blank on its left and on its
right; its text is wrapped into what is left of the width of its column and filled up with
blanks. A cell with fewer lines than the other one of its row is filled up below.
-/

namespace Conformance.Report

/-- A row of the table: a field and a value, as they are to be shown. -/
structure Row where
  /-- The name of the field. -/
  field : List Char
  /-- The value of the field. -/
  value : Line

/-- The style of fields. -/
def fieldStyle : Style := [36]

/-- The line with blanks up to `w` columns, or cut to them. -/
def fit (w : Nat) (l : Line) : Line :=
  if w < width l then crop w l else l ++ run [] (blanks (w - width l))

/-- The lines of a text in a column, each filled up to the width that the column has inside. A
column without room for its text has no lines. -/
def cellLines (column : Nat) (text : Line) : List Line :=
  let w := column - padding
  if w = 0 then []
  else (wrap w .ellipsis text).map fun l => fit w (l ++ styled [] (blanks (w - textWidth l)))

/-- A line of a field. -/
def fieldLine (l : Line) : Line :=
  run fieldStyle [' '] ++ run fieldStyle (plain l) ++ run fieldStyle [' ']

/-- The line as a run of its own. -/
def detached : Line → Line
  | [] => []
  | g :: gs => { g with starts := true } :: gs

/-- A line of a value. -/
def valueLine (l : Line) : Line := run [] [' '] ++ detached l ++ run [] [' ']

/-- The lines of a cell, filled up with `filler` to `n`. -/
def fillUp (n : Nat) (filler : Line) (ls : List Line) : List Line :=
  ls ++ List.replicate (n - ls.length) filler

/-- The lines of a row in columns of the given widths. A row in which neither cell has room for
its text is a blank line. -/
def rowLines (fieldWidth valueWidth : Nat) (r : Row) : List Line :=
  let fields := (cellLines fieldWidth (styled [] r.field)).map fieldLine
  let values := (cellLines valueWidth r.value).map valueLine
  let n := max fields.length values.length
  if n = 0 then [styled [] (blanks (fieldWidth + valueWidth))]
  else
    let left := fillUp n (run fieldStyle (blanks fieldWidth)) fields
    let right := fillUp n (run [] (blanks valueWidth)) values
    (left.zip right).map fun e => e.1 ++ e.2

/-- The lines of a table that may be at most `w` columns wide. -/
def tableLines (w : Nat) (rows : List Row) : List Line :=
  match columnWidths w [rows.map Row.field, rows.map fun r => plain r.value] with
  | [fieldWidth, valueWidth] => rows.flatMap (rowLines fieldWidth valueWidth)
  | _ => []

end Conformance.Report
