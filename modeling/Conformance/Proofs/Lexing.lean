import Conformance.Proofs.Reading
import Mathlib.Data.List.Sort

/-!
# Words are read in one way

Reading the clauses of a specification tries one category after the other, and the clauses of each
in turn. A `Spec.TrialOrder` puts categories and clauses in any order. None of these orders has a
meaning, because at most one word of the vocabulary stands at the start of a text up to a word
boundary (`Spec.eq_of_opening`), and so all of them read every text alike
(`Spec.TrialOrder.parse_eq`).

Nor does it matter that reading stops after as many clauses as there are categories: each clause
takes its category out of those that are pending, so that going on until no clause can be read comes
to the same (`Spec.TrialOrder.readEachClause_eq`).
-/

namespace Conformance

open Text

/-! ### Word boundaries -/

namespace Text

/-- Between the two texts is a word boundary: on just one side of it stands a word character. -/
def AtBoundary (before after : List Char) : Prop :=
  (∃ c ∈ before.getLast?, isAsciiWord c = true) ↔ ¬ ∃ c ∈ after.head?, isAsciiWord c = true

theorem startsOutsideWord_iff {cs : List Char} :
    startsOutsideWord cs = true ↔ ¬ ∃ c ∈ cs.head?, isAsciiWord c = true := by
  cases cs with
  | nil => simp [startsOutsideWord]
  | cons c cs => simp [startsOutsideWord]

/-- Behind a word character there is a word boundary where no other one follows. -/
theorem atBoundary_iff {before after : List Char}
    (h : ∃ c ∈ before.getLast?, isAsciiWord c = true) :
    AtBoundary before after ↔ startsOutsideWord after = true := by
  rw [AtBoundary, startsOutsideWord_iff]
  exact ⟨fun hb => hb.mp h, fun ha => iff_of_true h ha⟩

end Text

/-! ### One answer in any order -/

section Order

variable {α β : Type} {f : α → Option β} {l l' : List α}

/-- Where all that answer give the same answer, the first answer does not depend on the order. -/
theorem findSome?_eq_of_perm (h : l.Perm l')
    (hone : ∀ a ∈ l, ∀ b ∈ l, ∀ x y, f a = some x → f b = some y → x = y) :
    l.findSome? f = l'.findSome? f := by
  cases hf' : l'.findSome? f with
  | none =>
    rw [List.findSome?_eq_none_iff] at hf' ⊢
    exact fun a ha => hf' a (h.mem_iff.mp ha)
  | some y =>
    obtain ⟨b, hb, hy⟩ := List.exists_of_findSome?_eq_some hf'
    have hbl : b ∈ l := h.mem_iff.mpr hb
    cases hf : l.findSome? f with
    | none =>
      cases (List.findSome?_eq_none_iff.mp hf b hbl).symm.trans hy
    | some x =>
      obtain ⟨a, ha, hx⟩ := List.exists_of_findSome?_eq_some hf
      rw [hone a ha b hbl x y hx hy]

end Order

namespace Spec

/-! ### Orders of trials -/

/-- In which order the categories that are pending are tried, and the clauses of each. -/
structure TrialOrder where
  /-- The order of the categories that are pending. -/
  categories : List Category → List Category
  /-- The order of the clauses of a category. -/
  clauses : Category → List Clause
  perm_categories : ∀ pending, (categories pending).Perm pending
  perm_clauses : ∀ c, (clauses c).Perm c.clauses

/-! ### Classes of words -/

/-- The words that are looked for together at the start of a text. -/
inductive WordClass where
  /-- The keywords of the clauses of a category. -/
  | clauses (c : Category)
  /-- The word `function`. -/
  | function
  deriving DecidableEq

namespace WordClass

/-- The words of the class. -/
def words : WordClass → List (List Char)
  | clauses c => c.clauses.map fun k => k.keyword.toList
  | function => [functionWord]

end WordClass

/-- The word of the class that the text starts with, tried in this order, and the text behind it. -/
def TrialOrder.readWordOf? (o : TrialOrder) (p : WordClass) (cs : List Char) :
    Option (List Char × List Char) :=
  match p with
  | .clauses c => (readClauseAmong? (o.clauses c) cs).map fun r => (r.1.keyword.toList, r.2)
  | .function => (readWord? functionWord cs).map (Prod.mk functionWord)

/-- The word belongs to one of the classes. -/
def InVocabulary (word : List Char) : Prop := ∃ p : WordClass, word ∈ p.words

variable {p q : WordClass} {word word' cs rest rest' : List Char} {c : Category} {k : Clause}
  {ks ls : List Clause} {o : TrialOrder}

theorem mem_words_clauses_iff :
    word ∈ (WordClass.clauses c).words ↔
      ∃ k : Clause, k.category = c ∧ k.keyword.toList = word := by
  simp only [WordClass.words, List.mem_map, Category.mem_clauses_iff]

theorem mem_words_function_iff : word ∈ WordClass.function.words ↔ word = functionWord :=
  List.mem_singleton

/-- A word of the vocabulary is the keyword of a clause, or it is `function`. -/
theorem inVocabulary_iff :
    InVocabulary word ↔ (∃ k : Clause, k.keyword.toList = word) ∨ word = functionWord := by
  constructor
  · rintro ⟨c | _, h⟩
    · obtain ⟨k, -, hk⟩ := mem_words_clauses_iff.mp h
      exact Or.inl ⟨k, hk⟩
    · exact Or.inr (mem_words_function_iff.mp h)
  · rintro (⟨k, hk⟩ | h)
    · exact ⟨.clauses k.category, mem_words_clauses_iff.mpr ⟨k, rfl, hk⟩⟩
    · exact ⟨.function, mem_words_function_iff.mpr h⟩

theorem inVocabulary_keyword (k : Clause) : InVocabulary k.keyword.toList :=
  inVocabulary_iff.mpr (Or.inl ⟨k, rfl⟩)

theorem inVocabulary_functionWord : InVocabulary functionWord := inVocabulary_iff.mpr (Or.inr rfl)

theorem InVocabulary.isWord (h : InVocabulary word) : IsWord word := by
  rcases inVocabulary_iff.mp h with ⟨k, rfl⟩ | rfl
  · exact k.isWord_keyword
  · exact isWord_functionWord

/-- Every word of the vocabulary ends with a word character. -/
theorem InVocabulary.exists_getLast? (h : InVocabulary word) :
    ∃ c ∈ word.getLast?, isAsciiWord c = true := by
  rcases inVocabulary_iff.mp h with ⟨k, rfl⟩ | rfl
  · rcases k with ⟨⟨⟩, _ | _⟩ | ⟨⟨⟩⟩ | ⟨⟨⟩⟩ <;> exact ⟨_, rfl, by decide⟩
  · exact ⟨_, rfl, by decide⟩

theorem InVocabulary.atBoundary_iff (h : InVocabulary word) :
    AtBoundary word rest ↔ startsOutsideWord rest = true :=
  Text.atBoundary_iff h.exists_getLast?

/-- No word belongs to two classes. -/
theorem WordClass.eq_of_mem_words (hp : word ∈ p.words) (hq : word ∈ q.words) : p = q := by
  cases p with
  | clauses c =>
    obtain ⟨k, rfl, rfl⟩ := mem_words_clauses_iff.mp hp
    cases q with
    | clauses d =>
      obtain ⟨l, rfl, hl⟩ := mem_words_clauses_iff.mp hq
      rw [Clause.keyword_injective (String.toList_inj.mp hl)]
    | function => exact absurd (mem_words_function_iff.mp hq) (keyword_ne_functionWord k)
  | function =>
    obtain rfl := mem_words_function_iff.mp hp
    cases q with
    | clauses d =>
      obtain ⟨l, -, hl⟩ := mem_words_clauses_iff.mp hq
      exact absurd hl (keyword_ne_functionWord l)
    | function => rfl

/-! ### One word at the start of a text -/

/-- The text starts with the word, and the word ends at a word boundary. -/
def Opening (cs word rest : List Char) : Prop := cs = word ++ rest ∧ AtBoundary word rest

/-- At most one word of the vocabulary stands at the start of a text up to a word boundary. -/
theorem eq_of_opening (hw : InVocabulary word) (hw' : InVocabulary word')
    (h : Opening cs word rest) (h' : Opening cs word' rest') : word' = word ∧ rest' = rest :=
  eq_of_append_eq hw'.isWord hw.isWord (h'.1.symm.trans h.1) (hw'.atBoundary_iff.mp h'.2)
    (hw.atBoundary_iff.mp h.2)

/-- Clauses are looked for alike in any order. -/
theorem readClauseAmong?_eq_of_perm (h : ks.Perm ls) :
    readClauseAmong? ks cs = readClauseAmong? ls cs := by
  refine findSome?_eq_of_perm h fun k _ l _ x y hx hy => ?_
  obtain ⟨r, hr, rfl⟩ := Option.map_eq_some_iff.mp hx
  obtain ⟨s, hs, rfl⟩ := Option.map_eq_some_iff.mp hy
  obtain ⟨hk, hb⟩ := readWord?_eq_some_iff.mp hr
  obtain ⟨hl, hb'⟩ := readWord?_eq_some_iff.mp hs
  obtain ⟨rfl, rfl⟩ := eq_of_keyword_append (hk.symm.trans hl) hb hb'
  rfl

/-- The clause that a category has at the start of a text is read. -/
theorem readClauseAmong?_eq_some_iff :
    readClauseAmong? c.clauses cs = some (k, rest) ↔
      k.category = c ∧ Opening cs k.keyword.toList rest := by
  have hone : readClause? [c] cs = readClauseAmong? c.clauses cs := by
    rw [readClause?, List.findSome?_singleton]
  rw [← hone, readClause?_eq_some_iff, List.mem_singleton, Opening,
    (inVocabulary_keyword k).atBoundary_iff]

namespace TrialOrder

/-- A class has a word at the start of a text if and only if the text goes on with one of its words
up to a word boundary. -/
theorem readWordOf?_eq_some_iff :
    o.readWordOf? p cs = some (word, rest) ↔ word ∈ p.words ∧ Opening cs word rest := by
  cases p with
  | clauses c =>
    rw [readWordOf?, readClauseAmong?_eq_of_perm (o.perm_clauses c), Option.map_eq_some_iff,
      mem_words_clauses_iff]
    constructor
    · rintro ⟨⟨k, r⟩, h, he⟩
      obtain ⟨rfl, rfl⟩ := Prod.mk.inj he
      obtain ⟨hk, ho⟩ := readClauseAmong?_eq_some_iff.mp h
      exact ⟨⟨k, hk, rfl⟩, ho⟩
    · rintro ⟨⟨k, hk, rfl⟩, ho⟩
      exact ⟨(k, rest), readClauseAmong?_eq_some_iff.mpr ⟨hk, ho⟩, rfl⟩
  | function =>
    rw [readWordOf?, Option.map_eq_some_iff, mem_words_function_iff]
    constructor
    · rintro ⟨r, h, he⟩
      obtain ⟨rfl, rfl⟩ := Prod.mk.inj he
      obtain ⟨hcs, hb⟩ := readWord?_eq_some_iff.mp h
      exact ⟨rfl, hcs, inVocabulary_functionWord.atBoundary_iff.mpr hb⟩
    · rintro ⟨rfl, hcs, hb⟩
      have hb := inVocabulary_functionWord.atBoundary_iff.mp hb
      exact ⟨rest, readWord?_eq_some_iff.mpr ⟨hcs, hb⟩, rfl⟩

/-- At most one class has a word at the start of a text. -/
theorem eq_of_readWordOf? (hp : (o.readWordOf? p cs).isSome = true)
    (hq : (o.readWordOf? q cs).isSome = true) : p = q := by
  obtain ⟨⟨word, rest⟩, hp⟩ := Option.isSome_iff_exists.mp hp
  obtain ⟨⟨word', rest'⟩, hq⟩ := Option.isSome_iff_exists.mp hq
  obtain ⟨hw, ho⟩ := readWordOf?_eq_some_iff.mp hp
  obtain ⟨hw', ho'⟩ := readWordOf?_eq_some_iff.mp hq
  obtain ⟨rfl, rfl⟩ := eq_of_opening ⟨p, hw⟩ ⟨q, hw'⟩ ho ho'
  exact WordClass.eq_of_mem_words hw hw'

end TrialOrder

/-! ### Reading clauses in an order -/

/-- A way to read the clauses at the start of a text. -/
abbrev ClauseReader := List Char → Except (List Char) (Constraints × List Char)

/-- Reads the long form, the clauses in the given way. -/
def readLongBy (reader : ClauseReader) (cs : List Char) :
    Except (List Char) (Constraints × List Char) := do
  let (k, cs) ← reader cs
  let cs := trimStart cs
  match readWord? functionWord cs with
  | none => .error cs
  | some cs =>
    let cs := trimStart cs
    match readIdentifier? cs with
    | none => .error cs
    | some (name, []) => .ok (k, name)
    | some (_, rest) => .error rest

/-- The specification that a text denotes, whose clauses are read in the given way. -/
def parseBy (reader : ClauseReader) (text : String) : Except Fault Spec :=
  let cs := text.toList
  match if isIdentifier cs then .ok ({}, cs) else readLongBy reader cs with
  | .error remaining => .error (.malformedSpec (String.ofList remaining))
  | .ok (k, name) => ofConstraints (String.ofList name) k

theorem parseBy_readClauses (text : String) :
    parseBy (readClauses Category.all.length Category.all {}) text = parse text := rfl

namespace TrialOrder

variable (o : TrialOrder)

/-- The clause of one of the given categories that the text starts with, tried in this order, and
the text after it. -/
def readClause? (pending : List Category) (cs : List Char) : Option (Clause × List Char) :=
  (o.categories pending).findSome? fun c => readClauseAmong? (o.clauses c) cs

/-- Reads at most `rounds` clauses. -/
def readClauses : (rounds : Nat) → (pending : List Category) → Constraints → ClauseReader
  | 0, _, k, cs => .ok (k, cs)
  | rounds + 1, pending, k, cs =>
    let cs := trimStart cs
    match o.readClause? pending cs with
    | none => .ok (k, cs)
    | some (clause, rest) =>
      if (k.add clause).conflicting then .error cs
      else readClauses rounds (pending.erase clause.category) (k.add clause) rest

variable {o} {pending : List Category}

/-- Categories are tried alike in any order. -/
theorem readClause?_eq_of_perm {pending' : List Category} (h : pending.Perm pending') :
    Spec.readClause? pending cs = Spec.readClause? pending' cs := by
  refine findSome?_eq_of_perm h fun c _ d _ x y hx hy => ?_
  obtain ⟨k, r⟩ := x
  obtain ⟨l, s⟩ := y
  obtain ⟨-, hk⟩ := readClauseAmong?_eq_some_iff.mp hx
  obtain ⟨-, hl⟩ := readClauseAmong?_eq_some_iff.mp hy
  obtain ⟨hw, rfl⟩ := eq_of_opening (inVocabulary_keyword k) (inVocabulary_keyword l) hk hl
  rw [Clause.keyword_injective (String.toList_inj.mp hw)]

/-- The clause at the start of a text does not depend on the order of trials. -/
theorem readClause?_eq (o : TrialOrder) (pending : List Category) (cs : List Char) :
    o.readClause? pending cs = Spec.readClause? pending cs := by
  have hclauses (c : Category) :
      readClauseAmong? (o.clauses c) cs = readClauseAmong? c.clauses cs :=
    readClauseAmong?_eq_of_perm (o.perm_clauses c)
  simp only [readClause?, hclauses]
  exact readClause?_eq_of_perm (o.perm_categories pending)

/-- A clause that is read takes its category out of those that are pending. -/
theorem length_erase_lt (h : o.readClause? pending cs = some (k, rest)) :
    (pending.erase k.category).length < pending.length := by
  rw [readClause?_eq] at h
  have hk := (readClause?_eq_some_iff.mp h).1
  rw [List.length_erase_of_mem hk]
  exact Nat.sub_one_lt (List.length_pos_of_mem hk).ne'

/-- Reads clauses until none can be read. -/
def readEachClause (o : TrialOrder) (pending : List Category) (k : Constraints)
    (cs : List Char) : Except (List Char) (Constraints × List Char) :=
  match h : o.readClause? pending (trimStart cs) with
  | none => .ok (k, trimStart cs)
  | some (clause, rest) =>
    have := length_erase_lt h
    if (k.add clause).conflicting then .error (trimStart cs)
    else readEachClause o (pending.erase clause.category) (k.add clause) rest
termination_by pending.length

/-- The specification that a text denotes, read with no more clauses than there are categories. -/
def parse (text : String) : Except Fault Spec :=
  parseBy (o.readClauses Category.all.length Category.all {}) text

/-- The specification that a text denotes, read with as many clauses as there are. -/
def parseEach (o : TrialOrder) (text : String) : Except Fault Spec :=
  parseBy (o.readEachClause Category.all {}) text

/-! ### Every order of trials reads alike -/

variable {req : Constraints}

theorem readClauses_eq (o : TrialOrder) (rounds : Nat) :
    o.readClauses rounds pending req cs = Spec.readClauses rounds pending req cs := by
  induction rounds generalizing pending req cs with
  | zero => rfl
  | succ rounds ih =>
    cases hread : Spec.readClause? pending (trimStart cs) with
    | none =>
      rw [readClauses_succ_of_none _ _ hread]
      simp only [readClauses, readClause?_eq, hread]
    | some p =>
      obtain ⟨k, rest⟩ := p
      rw [readClauses_succ_of_some _ _ hread]
      simp only [readClauses, readClause?_eq, hread, ih]

theorem parse_eq (o : TrialOrder) (text : String) : o.parse text = Spec.parse text := by
  have hreader : o.readClauses Category.all.length Category.all {} =
      Spec.readClauses Category.all.length Category.all {} :=
    funext fun cs => o.readClauses_eq Category.all.length
  rw [parse, hreader, parseBy_readClauses]

/-! ### Reading to the last clause -/

theorem readEachClause_of_none (o : TrialOrder)
    (h : Spec.readClause? pending (trimStart cs) = none) :
    o.readEachClause pending req cs = .ok (req, trimStart cs) := by
  rw [readEachClause]
  split
  · rfl
  · next h' => cases h.symm.trans (o.readClause?_eq _ _ ▸ h')

theorem readEachClause_of_some (o : TrialOrder)
    (h : Spec.readClause? pending (trimStart cs) = some (k, rest)) :
    o.readEachClause pending req cs = if (req.add k).conflicting then .error (trimStart cs)
      else o.readEachClause (pending.erase k.category) (req.add k) rest := by
  rw [readEachClause]
  split
  · next h' => cases h.symm.trans (o.readClause?_eq _ _ ▸ h')
  · next h' =>
    obtain ⟨rfl, rfl⟩ := Prod.mk.inj (Option.some.inj (h.symm.trans (o.readClause?_eq _ _ ▸ h')))
    rfl

/-- The same constraints, and the text without its leading blanks. -/
def skipBlanks (r : Constraints × List Char) : Constraints × List Char := (r.1, trimStart r.2)

/-- In as many rounds as there are pending categories, every clause is read. -/
theorem readEachClause_eq (o : TrialOrder) {rounds : Nat} (h : pending.length ≤ rounds) :
    o.readEachClause pending req cs = (Spec.readClauses rounds pending req cs).map skipBlanks := by
  induction rounds generalizing pending req cs with
  | zero =>
    -- no category is left, so that no clause can be read
    obtain rfl := List.length_eq_zero_iff.mp (Nat.le_zero.mp h)
    exact o.readEachClause_of_none rfl
  | succ rounds ih =>
    cases hread : Spec.readClause? pending (trimStart cs) with
    | none =>
      rw [o.readEachClause_of_none hread, readClauses_succ_of_none _ _ hread, Except.map,
        skipBlanks, trimStart_trimStart]
    | some p =>
      obtain ⟨k, rest⟩ := p
      have hlt := length_erase_lt ((o.readClause?_eq _ _).trans hread)
      rw [o.readEachClause_of_some hread, readClauses_succ_of_some _ _ hread, ih (by omega)]
      split <;> rfl

/-- Blanks in front of what is behind the clauses have no meaning. -/
theorem readLongBy_skipBlanks (reader : ClauseReader) :
    readLongBy (fun cs => (reader cs).map skipBlanks) = readLongBy reader := by
  funext cs
  cases h : reader cs with
  | error x => simp only [readLongBy, h, Except.map, error_bind]
  | ok r => simp only [readLongBy, h, Except.map, ok_bind, skipBlanks, trimStart_trimStart]

theorem parseEach_eq (o : TrialOrder) (text : String) : o.parseEach text = Spec.parse text := by
  have hreader : o.readEachClause Category.all {} = fun cs =>
      (Spec.readClauses Category.all.length Category.all {} cs).map skipBlanks :=
    funext fun cs => o.readEachClause_eq le_rfl
  rw [← parseBy_readClauses, parseEach, parseBy, parseBy, hreader, readLongBy_skipBlanks]

/-- Longer words are tried before shorter ones, as if one could hide another. -/
def longestFirst : TrialOrder where
  categories pending := pending
  clauses c := c.clauses.mergeSort fun k l => l.keyword.length ≤ k.keyword.length
  perm_categories _ := .refl _
  perm_clauses _ := List.mergeSort_perm _ _

end TrialOrder

/-- **The words at the start of a text are read in one way.** At most one class of words has a word
there. It is a word of the class that the text goes on with up to a word boundary, and the only such
word of the vocabulary; the word and what is behind it make up the text. Hence it has no meaning in
which order categories and the clauses of a category are tried, nor that reading stops after as many
clauses as there are categories. -/
theorem words_read_in_one_way (o : TrialOrder) :
    (∀ (p q : WordClass) (cs : List Char), (o.readWordOf? p cs).isSome = true →
      (o.readWordOf? q cs).isSome = true → p = q) ∧
    (∀ (p : WordClass) (cs word rest : List Char), o.readWordOf? p cs = some (word, rest) ↔
      word ∈ p.words ∧ cs = word ++ rest ∧ AtBoundary word rest) ∧
    (∀ (p : WordClass) (cs word rest : List Char), o.readWordOf? p cs = some (word, rest) →
      ∀ word' rest', InVocabulary word' → cs = word' ++ rest' → AtBoundary word' rest' →
        word' = word ∧ rest' = rest) ∧
    ∀ text : String, o.parse text = parse text ∧ o.parseEach text = parse text := by
  refine ⟨fun p q cs => TrialOrder.eq_of_readWordOf?,
    fun p cs word rest => TrialOrder.readWordOf?_eq_some_iff,
    fun p cs word rest h word' rest' hw' hcs hb => ?_,
    fun text => ⟨o.parse_eq text, o.parseEach_eq text⟩⟩
  obtain ⟨hw, ho⟩ := TrialOrder.readWordOf?_eq_some_iff.mp h
  exact eq_of_opening ⟨p, hw⟩ hw' ho ⟨hcs, hb⟩

/-- In a text without a blank between its clauses, `public` is the only word at the start. -/
theorem words_read_in_one_way_glued :
    TrialOrder.longestFirst.readWordOf? (.clauses .access) "public!static function f".toList =
        some ("public".toList, "!static function f".toList) ∧
      (∀ p, (TrialOrder.longestFirst.readWordOf? p "public!static function f".toList).isSome →
        p = .clauses .access) ∧
      (∀ word rest, InVocabulary word → "public!static function f".toList = word ++ rest →
        AtBoundary word rest → word = "public".toList ∧ rest = "!static function f".toList) ∧
      ∃ s, parse "public!static function f" = .ok s ∧
        TrialOrder.longestFirst.parse "public!static function f" = .ok s ∧
        TrialOrder.longestFirst.parseEach "public!static function f" = .ok s := by
  obtain ⟨hclass, hread, hword, hparse⟩ := words_read_in_one_way TrialOrder.longestFirst
  obtain ⟨horder, heach⟩ := hparse "public!static function f"
  have hpublic : InVocabulary "public".toList := inVocabulary_keyword (.access (.only .pub))
  have hfirst : TrialOrder.longestFirst.readWordOf? (.clauses .access)
      "public!static function f".toList =
        some ("public".toList, "!static function f".toList) :=
    (hread _ _ _ _).mpr ⟨by decide, rfl, hpublic.atBoundary_iff.mpr rfl⟩
  obtain ⟨s, hs⟩ : ∃ s, parse "public!static function f" = .ok s := ⟨_, rfl⟩
  refine ⟨hfirst, fun p hp => hclass p _ _ hp (hfirst ▸ rfl), fun word rest hw hcs hb => ?_,
    s, hs, horder.trans hs, heach.trans hs⟩
  exact hword _ _ _ _ hfirst word rest hw hcs hb

end Spec

end Conformance
