import Conformance.Text.Blank
import Conformance.Text.Grapheme

/-!
# Styled text

A line of a report is a list of glyphs: characters with the style that they are shown in. A
terminal is told the style of a run of glyphs at once, so a glyph also says whether a new run
begins with it although the style stays the same. `plain` drops all styles; `paint` writes
them for a terminal.

A line can be measured as the text that it is (`textWidth`), or as it is shown, run by run
(`width`); both agree unless a run begins with a joiner or a selector (`width_eq_textWidth`).
`crop` cuts a line to a width, which leaves a line that fits as it is (`crop_of_width_le`).
-/

namespace Conformance.Report

/-- A style, as the parameters of the terminal's command for it; none for the default. -/
abbrev Style := List Nat

/-- A character of a report. -/
structure Glyph where
  /-- The character. -/
  char : Char
  /-- The style that it is shown in. -/
  style : Style := []
  /-- A new run begins here. -/
  starts : Bool := false
  deriving DecidableEq, Repr

/-- A line of a report. -/
abbrev Line := List Glyph

/-- The characters of a line. -/
def plain (l : Line) : List Char := l.map Glyph.char

/-- The columns that the text of a line occupies. -/
def textWidth (l : Line) : Nat := Text.cells (plain l)

@[simp] theorem plain_nil : plain [] = [] := rfl

@[simp] theorem plain_cons (g : Glyph) (l : Line) : plain (g :: l) = g.char :: plain l := rfl

@[simp] theorem plain_append (k l : Line) : plain (k ++ l) = plain k ++ plain l := by simp [plain]

@[simp] theorem textWidth_nil : textWidth [] = 0 := rfl

/-- A text in one style. -/
def styled (s : Style) (cs : List Char) : Line := cs.map fun c => ⟨c, s, false⟩

/-- A run of its own: the first glyph starts it. -/
def run (s : Style) : List Char → Line
  | [] => []
  | c :: cs => ⟨c, s, true⟩ :: styled s cs

/-- `n` blanks. -/
def blanks (n : Nat) : List Char := List.replicate n ' '

@[simp] theorem plain_styled (s : Style) (cs : List Char) : plain (styled s cs) = cs := by
  simp [plain, styled, Function.comp_def]

@[simp] theorem plain_run (s : Style) (cs : List Char) : plain (run s cs) = cs := by
  cases cs <;> simp [run]

/-! ### For a terminal -/

/-- The character that begins a command to the terminal. -/
def escapeChar : Char := '\x1b'

/-- The command for a style. -/
def command (s : Style) : List Char :=
  escapeChar :: '[' :: (";".intercalate (s.map toString)).toList ++ ['m']

/-- The command for the default style. -/
def reset : List Char := command [0]

/-- A run of glyphs of one style. -/
def paintRun (s : Style) (cs : List Char) : List Char :=
  if s = [] ∨ cs = [] then cs else command s ++ cs ++ reset

/-- The second glyph belongs to the same run as the first. -/
def sameRun (a b : Glyph) : Bool := a.style == b.style && !b.starts

/-- The runs with one more glyph in front. -/
def putInFront (g : Glyph) : List Line → List Line
  | (h :: r) :: rs => if sameRun g h then (g :: h :: r) :: rs else [g] :: (h :: r) :: rs
  | rs => [g] :: rs

/-- The runs that a line is shown in. -/
def runs (l : Line) : List Line := l.foldr putInFront []

theorem flatten_putInFront (g : Glyph) (rs : List Line) :
    (putInFront g rs).flatten = g :: rs.flatten := by
  unfold putInFront
  split
  · split <;> rfl
  · rfl

/-- The runs of a line are together the line. -/
theorem flatten_runs (l : Line) : (runs l).flatten = l := by
  induction l with
  | nil => rfl
  | cons g l ih => rw [runs, List.foldr_cons, flatten_putInFront, ← runs, ih]

/-- The line with the commands for its styles. -/
def paint (l : Line) : List Char :=
  (runs l).flatMap fun r => paintRun ((r.head?.map Glyph.style).getD []) (plain r)

/-- The line as it is printed: with the commands for its styles, or without. -/
def print (color : Bool) (l : Line) : List Char := if color then paint l else plain l

/-! ### Cutting to a width -/

/-- The columns that runs occupy. -/
def runsWidth (rs : List Line) : Nat := rs.foldr (fun r n => textWidth r + n) 0

/-- The columns that a line occupies, measured run by run. -/
def width (l : Line) : Nat := runsWidth (runs l)

/-- The characters in place of those of a line, in its styles. -/
def restyle (cs : List Char) (l : Line) : Line :=
  (cs.zip l).map fun e => { e.2 with char := e.1 }

/-- The runs that occupy `w` columns; the last of them is cut. -/
def cropRuns : (w : Nat) → List Line → Line
  | _, [] => []
  | w, r :: rs =>
    if textWidth r < w then r ++ cropRuns (w - textWidth r) rs
    else restyle (Text.cut w (plain r)) r

/-- The line cut to `w` columns. -/
def crop (w : Nat) (l : Line) : Line := if width l ≤ w then l else cropRuns w (runs l)

/-- A line that fits is not cut. -/
theorem crop_of_width_le {w : Nat} {l : Line} (h : width l ≤ w) : crop w l = l := if_pos h

theorem runsWidth_eq_textWidth_flatten {rs : List Line}
    (h : ∀ r ∈ rs, ∀ g ∈ r, Text.isConnector g.char = false) :
    runsWidth rs = textWidth rs.flatten := by
  induction rs with
  | nil => rfl
  | cons r rs ih =>
    have hr : ∀ c ∈ plain r, Text.isConnector c = false := by
      simpa [plain] using h r (List.mem_cons_self ..)
    have hrs : ∀ c ∈ plain rs.flatten, Text.isConnector c = false := by
      simp only [plain, List.mem_map, List.mem_flatten]
      rintro c ⟨g, ⟨k, hk, hg⟩, rfl⟩
      exact h k (List.mem_cons_of_mem _ hk) g hg
    rw [List.flatten_cons, textWidth, plain_append, Text.cells_append hr hrs, ← textWidth,
      ← textWidth, ← ih fun k hk => h k (List.mem_cons_of_mem _ hk)]
    rfl

/-- A line without joiners and selectors is as wide as its text. -/
theorem width_eq_textWidth {l : Line} (h : ∀ g ∈ l, Text.isConnector g.char = false) :
    width l = textWidth l := by
  rw [width, runsWidth_eq_textWidth_flatten, flatten_runs]
  intro r hr g hg
  exact h g (flatten_runs l ▸ List.mem_flatten_of_mem hr hg)

/-- The line without the blanks at its end, of which at most `n` are dropped. -/
def dropBlanksAtEnd (n : Nat) (l : Line) : Line :=
  let blankCount := (l.reverse.takeWhile fun g => Text.isBlank g.char).length
  l.take (l.length - min blankCount n)

end Conformance.Report
