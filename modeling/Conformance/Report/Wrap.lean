import Conformance.Report.Glyph

/-!
# Wrapping

A text is first cut at its line feeds. In each line tabs are replaced by blanks up to the next
multiple of eight columns. A line is then cut into words, each with the blanks around it that no
other word has taken, and words are put on a line as long as they fit without their trailing
blanks. A word that is wider than a line is folded into pieces or left whole, as the kind of
text demands.

No line has a line feed in it (`not_newline_of_mem_splitLines`), and the words of a line are
together the line, unless it is blank (`flatten_words`).
-/

namespace Conformance.Report

/-- What happens to a word that is wider than a line. -/
inductive Overflow where
  /-- It is cut into pieces. -/
  | fold
  /-- It is left whole, and the line is cut with an ellipsis at its end. -/
  | ellipsis
  deriving DecidableEq, Repr

/-! ### Lines and tabs -/

/-- The lines between the line feeds. -/
def splitLines : Line → List Line
  | [] => [[]]
  | g :: gs =>
    if g.char = '\n' then [] :: splitLines gs
    else
      match splitLines gs with
      | [] => [[g]]
      | l :: ls => (g :: l) :: ls

/-- There is always a line. -/
theorem splitLines_ne_nil (l : Line) : splitLines l ≠ [] := by
  cases l with
  | nil => simp [splitLines]
  | cons g gs =>
    simp only [splitLines]
    split
    · simp
    · split <;> simp

/-- No line has a line feed in it. -/
theorem not_newline_of_mem_splitLines {l line : Line} (h : line ∈ splitLines l) :
    ∀ g ∈ line, g.char ≠ '\n' := by
  induction l generalizing line with
  | nil =>
    have hl : line = [] := by simpa [splitLines] using h
    simp [hl]
  | cons g gs ih =>
    simp only [splitLines] at h
    split at h
    · rcases List.mem_cons.1 h with rfl | h
      · simp
      · exact ih h
    · next hg =>
      obtain ⟨k, ks, hs⟩ := List.exists_cons_of_ne_nil (splitLines_ne_nil gs)
      rw [hs] at h ih
      rcases List.mem_cons.1 h with rfl | h
      · simpa [hg] using ih (List.mem_cons_self ..)
      · exact ih (List.mem_cons_of_mem _ h)

/-- A text without line feeds is a single line. -/
theorem splitLines_of_no_newline {l : Line} (h : ∀ g ∈ l, g.char ≠ '\n') : splitLines l = [l] := by
  induction l with
  | nil => rfl
  | cons g gs ih =>
    simp only [List.mem_cons, forall_eq_or_imp] at h
    simp [splitLines, h.1, ih h.2]

/-- The distance between tab stops. -/
def tabSize : Nat := 8

/-- The line with its tabs replaced by blanks. The part before it reaches up to the given column;
`part` is the text between the last tab and the line. A blank in place of a tab stands behind
the text that it follows, and further ones fill up to the next tab stop. A run ends at a tab
stop, unless it has no style. -/
def expandTabsFrom : (column : Nat) → (part : List Char) → (afterTab : Bool) → Line → Line
  | _, _, _, [] => []
  | column, part, afterTab, g :: gs =>
    let first := { g with starts := g.starts || (afterTab && g.style != []) }
    if g.char = '\t' then
      let reached := column + Text.cells (part ++ [' '])
      let n := (tabSize - reached % tabSize) % tabSize
      { first with char := ' ' } :: List.replicate n ⟨' ', g.style, false⟩ ++
        expandTabsFrom (reached + n) [] true gs
    else first :: expandTabsFrom column (part ++ [g.char]) false gs

/-- The line with its tabs replaced by blanks. -/
def expandTabs (l : Line) : Line := expandTabsFrom 0 [] false l

/-! ### Words -/

/-- The place in a word that a glyph has. -/
inductive WordPart where
  | leading | body | trailing
  deriving DecidableEq, Repr

/-- Cuts a line into words behind the glyphs `word` of the first one, the last of which is at
the given place of it. Blanks before the first word belong to it, blanks behind any word to
that word. -/
def wordsFrom : (word : Line) → WordPart → Line → List Line
  | word, place, [] => if place = .leading then [] else [word]
  | word, place, g :: gs =>
    if Text.isBlank g.char then
      wordsFrom (word ++ [g]) (if place = .leading then .leading else .trailing) gs
    else if place = .trailing then word :: wordsFrom [g] .body gs
    else wordsFrom (word ++ [g]) .body gs

/-- The words of a line, which together are the line; a line of blanks has none. -/
def words (l : Line) : List Line := wordsFrom [] .leading l

theorem flatten_wordsFrom {word : Line} {place : WordPart} {l : Line}
    (h : place ≠ .leading ∨ ∃ g ∈ l, Text.isBlank g.char = false) :
    (wordsFrom word place l).flatten = word ++ l := by
  induction l generalizing word place with
  | nil =>
    have hp : place ≠ .leading := h.resolve_right (by simp)
    simp [wordsFrom, hp]
  | cons g gs ih =>
    have hbody : WordPart.body ≠ .leading := by decide
    have htrailing : WordPart.trailing ≠ .leading := by decide
    simp only [wordsFrom]
    split
    · next hb =>
      split
      · next hp =>
        have hgs : ∃ g' ∈ gs, Text.isBlank g'.char = false := by simpa [hp, hb] using h
        rw [ih (.inr hgs), List.append_assoc, List.singleton_append]
      · rw [ih (.inl htrailing), List.append_assoc, List.singleton_append]
    · split
      · rw [List.flatten_cons, ih (.inl hbody), List.singleton_append]
      · rw [ih (.inl hbody), List.append_assoc, List.singleton_append]

/-- The words of a line that is not blank are together the line. -/
theorem flatten_words {l : Line} (h : ∃ g ∈ l, Text.isBlank g.char = false) :
    (words l).flatten = l :=
  flatten_wordsFrom (.inr h)

/-- A blank line has no words. -/
theorem words_eq_nil {l : Line} (h : ∀ g ∈ l, Text.isBlank g.char = true) : words l = [] := by
  suffices ∀ word, wordsFrom word .leading l = [] from this []
  induction l with
  | nil => intro word; rfl
  | cons g gs ih =>
    intro word
    simp only [List.mem_cons, forall_eq_or_imp] at h
    simpa [wordsFrom, h.1] using ih h.2 _

/-- The columns that a word needs: those without the blanks at its end. -/
def neededWidth (word : Line) : Nat := Text.cells (Text.trimEnd (plain word))

/-- Cuts a line into pieces of the given lengths. -/
def splitLengths : List Nat → Line → List Line
  | [], _ => []
  | n :: ns, l => l.take n :: splitLengths ns (l.drop n)

/-- The pieces of a word that is wider than `w`. -/
def pieces (w : Nat) (word : Line) : List Line :=
  splitLengths ((Text.fold w (plain word)).map List.length) word

theorem flatten_splitLengths (ns : List Nat) (l : Line) (h : l.length ≤ ns.foldr (· + ·) 0) :
    (splitLengths ns l).flatten = l := by
  induction ns generalizing l with
  | nil => simpa [splitLengths] using h
  | cons n ns ih =>
    rw [splitLengths, List.flatten_cons, ih, List.take_append_drop]
    simp only [List.foldr_cons] at h
    rw [List.length_drop]
    omega

theorem length_flatten_eq_foldr {α : Type} (ls : List (List α)) :
    ls.flatten.length = (ls.map List.length).foldr (· + ·) 0 := by
  induction ls with
  | nil => rfl
  | cons l ls ih => simp [ih]

/-- The pieces of a word are together the word. -/
theorem flatten_pieces (w : Nat) (word : Line) : (pieces w word).flatten = word := by
  rw [pieces, flatten_splitLengths]
  rw [← length_flatten_eq_foldr, Text.flatten_fold]
  simp [plain]

/-! ### Filling lines -/

/-- Puts words on lines of `w` columns. The line that is being filled is `line`; `offset` is the
column that it has reached, and `first` says that no word has been put yet. -/
def fill (w : Nat) (overflow : Overflow) : (first : Bool) → (line : Line) → (offset : Nat) →
    List Line → List Line
  | _, line, _, [] => [line]
  | first, line, offset, word :: rest =>
    if offset + neededWidth word ≤ w then
      fill w overflow false (line ++ word) (offset + textWidth word) rest
    else if w < neededWidth word then
      match overflow with
      | .fold =>
        let ps := pieces w word
        let cut := if first then ps.dropWhile List.isEmpty else line :: ps
        let last := cut.getLastD []
        cut.dropLast ++ fill w overflow false last (textWidth last) rest
      | .ellipsis =>
        if first then fill w overflow false word (textWidth word) rest
        else line :: fill w overflow false word (textWidth word) rest
    else if offset ≠ 0 ∧ ¬first then line :: fill w overflow false word (textWidth word) rest
    else fill w overflow false (line ++ word) offset rest

/-- The lines of `w` columns that a line without line feeds is broken into. A line of blanks is
left as it is. -/
def breakLine (w : Nat) (overflow : Overflow) (l : Line) : List Line :=
  match words l with
  | [] => [l]
  | ws => fill w overflow true [] 0 ws

/-- The line without the blanks at its end that stand beyond the `w`th glyph. -/
def trimTo (w : Nat) (l : Line) : Line := dropBlanksAtEnd (l.length - w) l

/-- The ellipsis. -/
def ellipsis : Char := '…'

/-- The line, if its text is at most `w` columns wide; else its start with an ellipsis at the end.
The ellipsis is shown as the glyph in its place was. -/
def shorten (w : Nat) (l : Line) : Line :=
  if textWidth l ≤ w then l else restyle (Text.cut (w - 1) (plain l) ++ [ellipsis]) l

/-- The line cut to `w` columns, as the kind of text demands. -/
def cutTo (w : Nat) : Overflow → Line → Line
  | .fold, l => if textWidth l ≤ w then l else restyle (Text.cut w (plain l)) l
  | .ellipsis, l => shorten w l

/-- The lines of at most `w` columns that a text is wrapped into. -/
def wrap (w : Nat) (overflow : Overflow) (l : Line) : List Line :=
  (splitLines l).flatMap fun line =>
    (breakLine w overflow (expandTabs line)).map fun part => cutTo w overflow (trimTo w part)

end Conformance.Report
