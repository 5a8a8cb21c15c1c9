import Conformance.Text.WordChar

/-!
# Identifiers

An identifier is an ASCII letter or underscore followed by ASCII letters, digits and
underscores. `readIdentifier?` reads the longest one at the start of a text, and
`readWord?` reads a given word that ends at a word boundary.
-/

namespace Conformance.Text

/-- The text is an identifier. -/
def isIdentifier : List Char → Bool
  | [] => false
  | c :: cs => isAsciiLetter c && cs.all isAsciiWord

/-- The longest identifier at the start of a text, and the text after it. -/
def readIdentifier? : List Char → Option (List Char × List Char)
  | [] => none
  | c :: cs =>
    if isAsciiLetter c then some (c :: cs.takeWhile isAsciiWord, cs.dropWhile isAsciiWord)
    else none

/-- The text after the given word, if the text starts with it and the word ends there. -/
def readWord? (word cs : List Char) : Option (List Char) :=
  let rest := cs.drop word.length
  if word.isPrefixOf cs && startsOutsideWord rest then some rest else none

/-- A word is read where the text goes on with it and it ends at a word boundary. -/
theorem readWord?_eq_some_iff {word cs rest : List Char} :
    readWord? word cs = some rest ↔ cs = word ++ rest ∧ startsOutsideWord rest = true := by
  simp only [readWord?, Option.ite_none_right_eq_some, Bool.and_eq_true,
    List.isPrefixOf_iff_prefix, List.prefix_iff_eq_append, Option.some.injEq]
  constructor
  · rintro ⟨⟨h, hb⟩, rfl⟩
    exact ⟨h.symm, hb⟩
  · rintro ⟨rfl, hb⟩
    simpa using hb

/-- An identifier that is read is one, and it is followed by no further word character. -/
theorem readIdentifier?_eq_some {cs name rest : List Char}
    (h : readIdentifier? cs = some (name, rest)) :
    cs = name ++ rest ∧ isIdentifier name = true ∧ startsOutsideWord rest = true := by
  cases cs with
  | nil => simp [readIdentifier?] at h
  | cons c cs =>
    simp only [readIdentifier?] at h
    split at h
    · next hc =>
      simp only [Option.some.injEq, Prod.mk.injEq] at h
      obtain ⟨rfl, rfl⟩ := h
      refine ⟨by simp, by simp [isIdentifier, hc], ?_⟩
      cases hr : cs.dropWhile isAsciiWord with
      | nil => rfl
      | cons d ds =>
        have := List.head?_dropWhile_not isAsciiWord cs
        rw [hr] at this
        simpa [startsOutsideWord] using this
    · simp at h

end Conformance.Text
