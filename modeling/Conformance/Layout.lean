import Conformance.Text.CellWidth

/-!
# Layout of nested values

A value is written on one line if it fits. A collection that does not fit is spread: its
opening bracket ends a line, each item stands on lines of its own, further to the right, and
its closing bracket begins a line. The items are laid out in the same way.

A collection announces how many items it has. On one line, a separator stands behind each item but
the one that is the last by that number; on lines of their own, the item that is last in fact has
none.
-/

namespace Conformance

/-- What stands between the items of a collection. -/
inductive Separator where
  /-- A comma and a blank. -/
  | comma
  /-- A blank. -/
  | blank
  deriving DecidableEq, Repr

/-- The separator on one line. -/
def Separator.text : Separator → String
  | comma => ", "
  | blank => " "

/-- The separator at the end of a line. -/
def Separator.ending : Separator → String
  | comma => ","
  | blank => ""

/-- How the items of a collection are put together. -/
structure Frame where
  /-- What stands before the items. -/
  opening : String
  /-- What stands behind the items. -/
  closing : String
  /-- What stands between the items. -/
  separator : Separator := .comma
  /-- A single item has a comma behind it. -/
  keepsComma : Bool := false

/-- A value as it is to be laid out: a text that is kept together or a collection of items,
either of them perhaps behind a key. -/
inductive Layout where
  /-- A text that is kept together. -/
  | leaf (key text : String)
  /-- A collection that announces so many items. -/
  | branch (key : String) (frame : Frame) (announced : Int) (items : List Layout)

namespace Layout

/-- The widest line that is not spread if it can be. -/
def maxWidth : Nat := 80

/-- How much further to the right items stand than their collection. -/
def indentStep : Nat := 4

/-- The key with the colon behind it, if there is a key. -/
def keyText (key : String) : String := if key = "" then "" else key ++ ": "

/-- The layout behind a key. -/
def withKey (key : String) : Layout → Layout
  | leaf _ text => leaf key text
  | branch _ frame announced items => branch key frame announced items

/-- The layout with a comma behind an item that is the only one. -/
def keepingComma : Layout → Layout
  | leaf key text => leaf key text
  | branch key frame announced items => branch key { frame with keepsComma := true } announced items

/-- The columns that a text takes up. -/
def width (s : String) : Nat := Text.cells s.toList

/-- The frame keeps a comma behind the only one of these items. -/
def keepsCommaOf (frame : Frame) (items : List Layout) : Bool :=
  frame.keepsComma && items.length == 1

/-! ### On one line -/

/-- The number announced for the items behind the first one; a single item with a comma of its own
counts as the last. -/
def announcedOf (frame : Frame) (announced : Int) (items : List Layout) : Int :=
  if keepsCommaOf frame items then 1 else announced

mutual

/-- The value on one line. -/
def flat : Layout → String
  | leaf key text => keyText key ++ text
  | branch key _ _ [] => keyText key
  | branch key frame announced (item :: items) =>
    keyText key ++ frame.opening ++
      flats frame.separator (announcedOf frame announced (item :: items)) (item :: items) ++
      (if keepsCommaOf frame (item :: items) then "," else "") ++ frame.closing

/-- Several values on one line, of which so many are announced. -/
def flats (separator : Separator) (announced : Int) : List Layout → String
  | [] => ""
  | item :: items =>
    flat item ++ (if announced = 1 then "" else separator.text) ++
      flats separator (announced - 1) items

end

/-- The columns that a key takes up with what is behind it. -/
def keyCells (key : String) : Nat := if key = "" then 0 else width key + width ": "

mutual

/-- The columns that the value takes up on one line. Brackets, items and what is between them are
measured one by one, so that no character joins another one of a different part. -/
def flatCells : Layout → Nat
  | leaf key text => keyCells key + width text
  | branch key _ _ [] => keyCells key
  | branch key frame announced (item :: items) =>
    keyCells key + width frame.opening +
      flatsCells frame.separator (announcedOf frame announced (item :: items)) (item :: items) +
      (if keepsCommaOf frame (item :: items) then 1 else 0) + width frame.closing

/-- The columns that several values take up, of which so many are announced. -/
def flatsCells (separator : Separator) (announced : Int) : List Layout → Nat
  | [] => 0
  | item :: items =>
    flatCells item + (if announced = 1 then 0 else width separator.text) +
      flatsCells separator (announced - 1) items

end

/-! ### On several lines -/

/-- What stands behind an item. Blanks at the end count for the width of the line but are not
written. -/
structure Suffix where
  /-- The text. -/
  text : String := ""
  /-- The columns that the text takes up. -/
  width : Nat := 0

/-- The separator behind an item on lines of its own. -/
def Suffix.ofSeparator (s : Separator) : Suffix := ⟨s.ending, Layout.width s.text⟩

/-- The comma behind a single item. -/
def Suffix.single : Suffix := ⟨",", 1⟩

/-- The line at this place holds the value and what is behind it. -/
def fits (indent : Nat) (s : Suffix) (l : Layout) : Bool :=
  indent + s.width + l.flatCells ≤ maxWidth

/-- A line of text, `indent` columns to the right. -/
def line (indent : Nat) (text : String) : String :=
  String.ofList (List.replicate indent ' ') ++ text

mutual

/-- The lines of a value that stands `indent` columns to the right, has `s` behind it for the
sake of the width, and `written` behind it in fact. -/
def lines (indent : Nat) (s : Suffix) (written : String) : Layout → List String
  | leaf key text => [line indent (keyText key ++ text ++ written)]
  | branch key frame announced items =>
    let whole := branch key frame announced items
    if items.isEmpty || whole.fits indent s then [line indent (whole.flat ++ written)]
    else
      line indent (keyText key ++ frame.opening) ::
        (itemLines (indent + indentStep) frame.separator (keepsCommaOf frame items) items ++
          [line indent (frame.closing ++ written)])

/-- The lines of the items of a collection. No separator is written behind the last one, unless it
is single and keeps its comma. -/
def itemLines (indent : Nat) (separator : Separator) (single : Bool) : List Layout → List String
  | [] => []
  | item :: items =>
    let s := if single then Suffix.single else .ofSeparator separator
    lines indent s (if items.isEmpty && !single then "" else s.text) item ++
      itemLines indent separator single items

end

/-- The value on as many lines as it needs. -/
def render (l : Layout) : String := "\n".intercalate (l.lines 0 {} "")

end Layout

end Conformance
