import Conformance.Spec.Parser
import Mathlib.Data.List.TakeWhile

/-!
# Words and clauses at the start of a text

A word is read where it ends at a word boundary, so of two words at most one can be read at the
start of a text (`Text.eq_of_append_eq`). The keywords of the clauses and the word `function` are
words in this sense and differ from each other. Hence the clause that a text starts with does not
depend on the order in which clauses are tried (`Spec.readClause?_eq_some_iff`).
-/

namespace Conformance

namespace Text

/-! ### Blanks -/

/-- The text consists of blanks. -/
def AllBlank (cs : List Char) : Prop := ∀ c ∈ cs, isBlank c = true

theorem AllBlank.nil : AllBlank [] := fun _ hc => absurd hc List.not_mem_nil

theorem AllBlank.of_all {cs : List Char} (h : cs.all isBlank = true) : AllBlank cs :=
  List.all_eq_true.mp h

theorem AllBlank.single : AllBlank [' '] := .of_all (by decide)

theorem AllBlank.append {v w : List Char} (hv : AllBlank v) (hw : AllBlank w) :
    AllBlank (v ++ w) := fun c hc => (List.mem_append.mp hc).elim (hv c) (hw c)

theorem trimStart_append {w : List Char} (hw : AllBlank w) (cs : List Char) :
    trimStart (w ++ cs) = trimStart cs := List.dropWhile_append_of_pos hw

/-- A text is its leading blanks and what is left without them. -/
theorem exists_append_trimStart (cs : List Char) : ∃ w, AllBlank w ∧ cs = w ++ trimStart cs :=
  ⟨cs.takeWhile isBlank, fun _ hc => List.mem_takeWhile_imp hc,
    (takeWhile_append_trimStart cs).symm⟩

theorem not_blank_of_isAsciiWord {c : Char} (h : isAsciiWord c = true) : isBlank c = false := by
  by_contra hb
  have hc : ∀ n ∈ blankCodes, isAsciiWord (Char.ofNat n) = false := by decide
  have hmem : c.toNat ∈ blankCodes := by simpa [isBlank] using hb
  have := hc c.toNat hmem
  rw [Char.ofNat_toNat, h] at this
  cases this

/-- Blanks end the word before them. -/
theorem startsOutsideWord_append {w : List Char} (hw : AllBlank w) (hne : w ≠ [])
    (cs : List Char) : startsOutsideWord (w ++ cs) = true := by
  cases w with
  | nil => exact absurd rfl hne
  | cons c w =>
    by_contra h
    have hc : isAsciiWord c = true := by simpa [startsOutsideWord] using h
    have := hw c List.mem_cons_self
    rw [not_blank_of_isAsciiWord hc] at this
    cases this

/-! ### Words -/

/-- The text is a word: it goes on with word characters, whatever it begins with. -/
def IsWord (word : List Char) : Prop := word ≠ [] ∧ ∀ c ∈ word.tail, isAsciiWord c = true

theorem IsWord.of_all {word : List Char} (hne : word ≠ [])
    (h : word.tail.all isAsciiWord = true) : IsWord word := ⟨hne, List.all_eq_true.mp h⟩

/-- A word of which another one is the beginning is that one, if a word boundary follows it. -/
theorem eq_nil_of_append {u bs s : List Char} (hu : u ≠ []) (h : IsWord (u ++ bs))
    (hs : startsOutsideWord (bs ++ s) = true) : bs = [] := by
  cases bs with
  | nil => rfl
  | cons b bs =>
    have hb : b ∈ (u ++ b :: bs).tail := by
      rw [List.tail_append_of_ne_nil hu]
      exact List.mem_append_right _ List.mem_cons_self
    have := h.2 b hb
    simp [startsOutsideWord, this] at hs

/-- Two words that a text starts with are the same, if both end at a word boundary. -/
theorem eq_of_append_eq {u v r s : List Char} (hu : IsWord u) (hv : IsWord v)
    (h : u ++ r = v ++ s) (hr : startsOutsideWord r = true) (hs : startsOutsideWord s = true) :
    u = v ∧ r = s := by
  rcases List.append_eq_append_iff.mp h with ⟨as, rfl, rfl⟩ | ⟨bs, rfl, rfl⟩
  · obtain rfl := eq_nil_of_append hu.1 hv hr
    simp
  · obtain rfl := eq_nil_of_append hv.1 hu hs
    simp

/-! ### Identifiers -/

theorem isAsciiWord_of_isAsciiLetter {c : Char} (h : isAsciiLetter c = true) :
    isAsciiWord c = true := by
  simp only [isAsciiLetter, isAsciiWord, Char.isAlphanum, Bool.or_eq_true] at h ⊢
  rcases h with h | h
  · exact Or.inl (Or.inl h)
  · exact Or.inr h

theorem isAsciiWord_of_mem {name : List Char} (h : isIdentifier name = true) :
    ∀ c ∈ name, isAsciiWord c = true := by
  cases name with
  | nil => cases h
  | cons c cs =>
    simp only [isIdentifier, Bool.and_eq_true, List.all_eq_true] at h
    intro d hd
    rcases List.mem_cons.mp hd with rfl | hd
    · exact isAsciiWord_of_isAsciiLetter h.1
    · exact h.2 d hd

/-- A text with a blank in it is no identifier. -/
theorem isIdentifier_eq_false {cs : List Char} {c : Char} (hc : c ∈ cs) (hb : isBlank c = true) :
    isIdentifier cs = false := by
  by_contra h
  have hw := isAsciiWord_of_mem (Bool.not_eq_false _ ▸ h) c hc
  rw [not_blank_of_isAsciiWord hw] at hb
  cases hb

theorem ne_nil_of_isIdentifier {name : List Char} (h : isIdentifier name = true) : name ≠ [] := by
  rintro rfl
  cases h

/-- An identifier begins with a word character. -/
theorem exists_cons_of_isIdentifier {name : List Char} (h : isIdentifier name = true) :
    ∃ c cs, name = c :: cs ∧ isAsciiWord c = true := by
  cases name with
  | nil => cases h
  | cons c cs => exact ⟨c, cs, rfl, isAsciiWord_of_mem h c List.mem_cons_self⟩

theorem trimStart_of_isIdentifier {name : List Char} (h : isIdentifier name = true) :
    trimStart name = name := by
  obtain ⟨c, cs, rfl, hc⟩ := exists_cons_of_isIdentifier h
  exact trimStart_cons_of_not_blank (not_blank_of_isAsciiWord hc)

/-- An identifier is read as a whole. -/
theorem readIdentifier?_of_isIdentifier {name : List Char} (h : isIdentifier name = true) :
    readIdentifier? name = some (name, []) := by
  cases name with
  | nil => cases h
  | cons c cs =>
    simp only [isIdentifier, Bool.and_eq_true, List.all_eq_true] at h
    simp only [readIdentifier?, if_pos h.1, List.takeWhile_eq_self_iff.mpr h.2,
      List.dropWhile_eq_nil_iff.mpr h.2]

end Text

open Text

/-! ### Keywords of clauses -/

namespace Clause

theorem isWord_keyword (k : Clause) : IsWord k.keyword.toList := by
  rcases k with ⟨⟨⟩, _ | _⟩ | ⟨⟨⟩⟩ | ⟨⟨⟩⟩ <;> exact .of_all (by decide) (by decide)

/-- A keyword begins with an exclamation mark or a word character. -/
theorem exists_cons_keyword (k : Clause) :
    ∃ c cs, k.keyword.toList = c :: cs ∧ (c = '!' ∨ isAsciiWord c = true) := by
  rcases k with ⟨⟨⟩, _ | _⟩ | ⟨⟨⟩⟩ | ⟨⟨⟩⟩ <;> exact ⟨_, _, rfl, by decide⟩

theorem keyword_injective : Function.Injective keyword := by
  -- every clause is the first one that has its keyword
  have hfind (k : Clause) :
      (Category.all.flatMap Category.clauses).find? (fun l => l.keyword == k.keyword) = some k := by
    rcases k with ⟨⟨⟩, _ | _⟩ | ⟨⟨⟩⟩ | ⟨⟨⟩⟩ <;> decide
  intro k l h
  exact Option.some.inj ((hfind k).symm.trans (h ▸ hfind l))

end Clause

namespace Spec

theorem isWord_functionWord : IsWord functionWord := .of_all (by decide) (by decide)

theorem keyword_ne_functionWord (k : Clause) : k.keyword.toList ≠ functionWord := by
  rcases k with ⟨⟨⟩, _ | _⟩ | ⟨⟨⟩⟩ | ⟨⟨⟩⟩ <;> decide

/-- A keyword is not blank at its beginning. -/
theorem trimStart_keyword_append (k : Clause) (cs : List Char) :
    trimStart (k.keyword.toList ++ cs) = k.keyword.toList ++ cs := by
  obtain ⟨c, ds, h, hc⟩ := k.exists_cons_keyword
  rw [h, List.cons_append]
  refine trimStart_cons_of_not_blank ?_
  rcases hc with rfl | hc
  · decide
  · exact not_blank_of_isAsciiWord hc

/-! ### Reading one clause -/

/-- At most one clause can be read at the start of a text. -/
theorem eq_of_keyword_append {k l : Clause} {r s : List Char}
    (h : k.keyword.toList ++ r = l.keyword.toList ++ s) (hr : startsOutsideWord r = true)
    (hs : startsOutsideWord s = true) : k = l ∧ r = s := by
  obtain ⟨hw, hrs⟩ := eq_of_append_eq k.isWord_keyword l.isWord_keyword h hr hs
  exact ⟨Clause.keyword_injective (String.toList_inj.mp hw), hrs⟩

/-- The word `function` does not stand where a clause does. -/
theorem keyword_append_ne_functionWord_append {k : Clause} {r s : List Char}
    (hr : startsOutsideWord r = true) (hs : startsOutsideWord s = true) :
    k.keyword.toList ++ r ≠ functionWord ++ s := fun h =>
  keyword_ne_functionWord k (eq_of_append_eq k.isWord_keyword isWord_functionWord h hr hs).1

theorem of_readClause?_eq_some {pending : List Category} {cs rest : List Char} {k : Clause}
    (h : readClause? pending cs = some (k, rest)) :
    k.category ∈ pending ∧ cs = k.keyword.toList ++ rest ∧ startsOutsideWord rest = true := by
  obtain ⟨c, hc, h⟩ := List.exists_of_findSome?_eq_some h
  obtain ⟨l, hl, h⟩ := List.exists_of_findSome?_eq_some h
  obtain ⟨r, hr, hlk⟩ := Option.map_eq_some_iff.mp h
  obtain ⟨rfl, rfl⟩ := Prod.mk.inj hlk
  rw [Category.mem_clauses_iff.mp hl]
  exact ⟨hc, readWord?_eq_some_iff.mp hr⟩

/-- A clause is read where a category that is pending has it as a word at the start of the text. -/
theorem readClause?_eq_some_iff {pending : List Category} {cs rest : List Char} {k : Clause} :
    readClause? pending cs = some (k, rest) ↔
      k.category ∈ pending ∧ cs = k.keyword.toList ++ rest ∧ startsOutsideWord rest = true := by
  refine ⟨of_readClause?_eq_some, ?_⟩
  rintro ⟨hk, rfl, hr⟩
  cases h : readClause? pending (k.keyword.toList ++ rest) with
  | none =>
    have h := List.findSome?_eq_none_iff.mp h _ hk
    have h := List.findSome?_eq_none_iff.mp h k (Category.mem_clauses_iff.mpr rfl)
    rw [readWord?_eq_some_iff.mpr ⟨rfl, hr⟩] at h
    cases h
  | some p =>
    obtain ⟨l, s⟩ := p
    obtain ⟨-, hl, hs⟩ := of_readClause?_eq_some h
    obtain ⟨rfl, rfl⟩ := eq_of_keyword_append hl hr hs
    rfl

/-- No clause is read where the word `function` stands. -/
theorem readClause?_functionWord_append (pending : List Category) {cs : List Char}
    (hcs : startsOutsideWord cs = true) : readClause? pending (functionWord ++ cs) = none := by
  cases h : readClause? pending (functionWord ++ cs) with
  | none => rfl
  | some p =>
    obtain ⟨k, rest⟩ := p
    obtain ⟨-, hk, hr⟩ := of_readClause?_eq_some h
    exact absurd hk.symm (keyword_append_ne_functionWord_append hr hcs)

end Spec

end Conformance
