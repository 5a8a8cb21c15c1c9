import Conformance.Report.Glyph

/-!
# Spans

A part of a text that has a look of its own is a span. Spans are found by searching a text from
left to right: where something is found, it is cut into segments, and the search goes on behind
it. A character has the look of the last of the spans that cover it and have one, and each end of
a span begins a new run. The text itself stays as it is (`plain_glyphs`).
-/

namespace Conformance.Report

/-- A part of a text. -/
structure Span where
  /-- The number of characters before it. -/
  start : Nat
  /-- The number of characters up to its end. -/
  stop : Nat
  /-- The style of the part, if it has one. -/
  look : Option Style

/-- A piece of what a search has found. -/
inductive Segment where
  /-- So many characters that are part of no span. -/
  | gap (length : Nat)
  /-- A span of so many characters. -/
  | span (look : Option Style) (length : Nat)

namespace Segment

/-- The number of characters of a segment. -/
def length : Segment → Nat
  | gap n => n
  | span _ n => n

/-- The number of characters of several segments. -/
def total (ss : List Segment) : Nat := ss.foldl (fun n s => n + s.length) 0

end Segment

namespace Span

/-- The character with so many others before it is part of the span. -/
def covers (p : Span) (i : Nat) : Bool := p.start ≤ i && i < p.stop

/-- A span begins or ends before the character with so many others before it. -/
def isEdge (spans : List Span) (i : Nat) : Bool :=
  spans.any fun p => p.start == i || p.stop == i

/-- The spans that segments from a place on are; one without characters is none. -/
def ofSegments : (start : Nat) → List Segment → List Span
  | _, [] => []
  | start, .gap n :: ss => ofSegments (start + n) ss
  | start, .span look n :: ss =>
    (if n = 0 then [] else [⟨start, start + n, look⟩]) ++ ofSegments (start + n) ss

/-- What finds something at the beginning of a text, of which the character before it is given. -/
abbrev Finder := (previous : Option Char) → List Char → Option (List Segment)

/-- The spans of a text that begins at the place `start`, of which `skipped` characters have been
found already. -/
def search (find : Finder) :
    (start skipped : Nat) → (previous : Option Char) → List Char → List Span
  | _, _, _, [] => []
  | start, skipped + 1, _, c :: cs => search find (start + 1) skipped (some c) cs
  | start, 0, previous, c :: cs =>
    match find previous (c :: cs) with
    | none => search find (start + 1) 0 (some c) cs
    | some ss =>
      ofSegments start ss ++ search find (start + 1) (Segment.total ss - 1) (some c) cs

/-- The spans of a text, for each finder in turn. -/
def searchAll (finders : List Finder) (cs : List Char) : List Span :=
  finders.flatMap fun find => search find 0 0 none cs

/-- The style of the character with so many others before it. -/
def styleAt (base : Style) (spans : List Span) (i : Nat) : Style :=
  spans.foldl (fun s p => if p.covers i then p.look.getD s else s) base

/-- The characters from the place `i` on with the styles that the spans give them. -/
def glyphs (base : Style) (spans : List Span) : (i : Nat) → List Char → Line
  | _, [] => []
  | i, c :: cs => ⟨c, styleAt base spans i, isEdge spans i⟩ :: glyphs base spans (i + 1) cs

/-- Spans change styles only. -/
@[simp] theorem plain_glyphs (base : Style) (spans : List Span) (i : Nat) (cs : List Char) :
    plain (glyphs base spans i cs) = cs := by
  induction cs generalizing i with
  | nil => rfl
  | cons c cs ih => simp [glyphs, ih]

end Span

end Conformance.Report
