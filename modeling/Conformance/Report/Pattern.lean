/-!
# Patterns

A pattern maps a text to the texts that can be left after a match at its start, the preferred
match first. Patterns are put together by sequence, choice and repetition; a repetition that is
greedy prefers to go on, one that is not prefers to stop.
-/

namespace Conformance.Report

/-- What can be left of a text after a match at its start, the preferred match first. -/
abbrev Pattern := List Char → List (List Char)

namespace Pattern

/-- A character with the property. -/
def one (p : Char → Bool) : Pattern
  | [] => []
  | c :: cs => if p c then [cs] else []

/-- The character. -/
def exactly (c : Char) : Pattern := one (· == c)

/-- As many characters with the property as possible, or fewer. -/
def many (p : Char → Bool) : Pattern
  | [] => [[]]
  | c :: cs => if p c then many p cs ++ [c :: cs] else [c :: cs]

/-- A match of the first pattern and one of the second after it. -/
def andThen (f g : Pattern) : Pattern := fun cs => (f cs).flatMap g

/-- A match of the first pattern, or else one of the second. -/
def orElse (f g : Pattern) : Pattern := fun cs => f cs ++ g cs

/-- A match of the pattern, or else nothing. -/
def optional (f : Pattern) : Pattern := orElse f fun cs => [cs]

/-- At least one character with the property, as many as possible. -/
def some (p : Char → Bool) : Pattern := andThen (one p) (many p)

/-- At least one character with the property, as few as possible. -/
def someFew (p : Char → Bool) : Pattern := fun cs => (some p cs).reverse

/-- As many matches of the pattern as asked for, one after the other. -/
def times (f : Pattern) : Nat → Pattern
  | 0 => fun cs => [cs]
  | n + 1 => andThen f (times f n)

/-- As many matches of the pattern as possible, one after the other, but not more than so many. -/
def atMost (f : Pattern) : Nat → Pattern
  | 0 => fun cs => [cs]
  | n + 1 => optional (andThen f (atMost f n))

/-- At least `least` and at most `most` matches of the pattern, as many as possible. -/
def between (f : Pattern) (least most : Nat) : Pattern :=
  andThen (times f least) (atMost f (most - least))

/-- The text. -/
def literal (text : List Char) : Pattern := fun cs => (text.isPrefixOf? cs).toList

/-- A match after which the text goes on as wanted. -/
def before (f : Pattern) (wanted : List Char → Bool) : Pattern := fun cs => (f cs).filter wanted

/-- How many characters the preferred match takes. -/
def length? (f : Pattern) (cs : List Char) : Option Nat :=
  (f cs).head?.map fun rest => cs.length - rest.length

end Pattern

end Conformance.Report
