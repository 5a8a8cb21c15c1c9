import Conformance.Text.CellWidth

/-!
# Graphemes

A grapheme is what a terminal shows as one sign: a character that takes a column with all that
is shown on top of it or joined to it. A text is cut only between graphemes: `cut` shortens it
to a number of columns, `fold` breaks it into pieces of at most so many columns.

The graphemes of a text are together the text (`flatMap_chars_graphemes`), and so are the
pieces that it is folded into (`flatten_fold`).
-/

namespace Conformance.Text

/-- What is shown as one sign, and the columns that it occupies. -/
structure Grapheme where
  /-- The characters. -/
  chars : List Char
  /-- The columns. -/
  width : Nat
  deriving DecidableEq, Repr

/-- The graphemes of a text behind the beginning `g` of the first of them, where `last` is the
last character that takes a column and is not in its emoji form yet. -/
def graphemesAfter : (g : Grapheme) → (last : Option Char) → List Char → List Grapheme
  | g, _, [] => [g]
  | g, last, c :: cs =>
    if c = joiner then
      match cs with
      | [] => [⟨g.chars ++ [c], g.width⟩]
      | d :: rest => graphemesAfter ⟨g.chars ++ [c, d], g.width⟩ last rest
    else if c = emojiSelector then
      graphemesAfter ⟨g.chars ++ [c], g.width + widening last⟩ none cs
    else if cellWidth c = 0 then graphemesAfter ⟨g.chars ++ [c], g.width⟩ last cs
    else g :: graphemesAfter ⟨[c], cellWidth c⟩ (some c) cs

/-- The graphemes of a text. The first character begins one whatever it is. -/
def graphemes : List Char → List Grapheme
  | [] => []
  | c :: cs => graphemesAfter ⟨[c], cellWidth c⟩ (if cellWidth c = 0 then none else some c) cs

theorem flatMap_chars_graphemesAfter (g : Grapheme) (last : Option Char) (cs : List Char) :
    (graphemesAfter g last cs).flatMap Grapheme.chars = g.chars ++ cs := by
  fun_induction graphemesAfter g last cs <;> simp_all

/-- The graphemes of a text are together the text. -/
theorem flatMap_chars_graphemes (cs : List Char) :
    (graphemes cs).flatMap Grapheme.chars = cs := by
  cases cs with
  | nil => rfl
  | cons c cs => exact flatMap_chars_graphemesAfter ..

/-! ### Cutting -/

/-- The graphemes at the start that occupy `w` columns. If a wide one is cut in two there, a
blank stands for the half that is left. -/
def takeColumns : (w : Nat) → List Grapheme → List Char
  | _, [] => []
  | w, g :: gs =>
    if w = 0 then []
    else if g.width ≤ w then g.chars ++ takeColumns (w - g.width) gs
    else [' ']

/-- The start of a text that occupies `w` columns; the whole text if it occupies no more. Nothing
is left of it in none, not even a character without width. -/
def cut (w : Nat) (cs : List Char) : List Char :=
  if w = 0 then [] else if cells cs ≤ w then cs else takeColumns w (graphemes cs)

/-! ### Folding -/

/-- Puts graphemes on pieces of at most `w` columns. The piece that is being filled is `piece`,
and `used` are its columns. -/
def foldAfter (w : Nat) : (piece : List Char) → (used : Nat) → List Grapheme → List (List Char)
  | piece, _, [] => [piece]
  | piece, used, g :: gs =>
    if w < used + g.width then piece :: foldAfter w g.chars g.width gs
    else foldAfter w (piece ++ g.chars) (used + g.width) gs

/-- The pieces of at most `w` columns that a text is broken into. A grapheme that is wider makes
a piece of its own; if it is the first one, an empty piece comes before it. -/
def fold (w : Nat) (cs : List Char) : List (List Char) := foldAfter w [] 0 (graphemes cs)

theorem flatten_foldAfter (w : Nat) (piece : List Char) (used : Nat) (gs : List Grapheme) :
    (foldAfter w piece used gs).flatten = piece ++ gs.flatMap Grapheme.chars := by
  induction gs generalizing piece used with
  | nil => simp [foldAfter]
  | cons g gs ih =>
    rw [foldAfter]
    split <;> simp [ih]

/-- The pieces of a text are together the text. -/
theorem flatten_fold (w : Nat) (cs : List Char) : (fold w cs).flatten = cs := by
  rw [fold, flatten_foldAfter, flatMap_chars_graphemes, List.nil_append]

end Conformance.Text
