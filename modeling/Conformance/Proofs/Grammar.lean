import Conformance.Proofs.Words
import Mathlib.Data.List.Perm.Subperm

/-!
# The grammar of specifications

What a specification text says, written without reference to how it is read. A text is a name
alone, or a long form: clauses, the word `function` and a name, with blanks between them
(`Spec.Sentence`). The clauses are of different categories and do not require a method that is
abstract and final (`Contradictory`). `Spec.Denotes` puts both forms together, and
`Constraints.Collects` says what a list of clauses amounts to.

`Spec.Opens` relates a text to the clauses that it opens with and to what is behind them. Reading
clauses passes over exactly such a beginning (`Spec.readClauses_of_opens`), and whatever it comes
to, there is one that it has passed over (`Spec.readClauses_ends`).
-/

namespace Conformance

open Text

/-! ### Lists of clauses and constraints -/

/-- The clauses require a method to be abstract and final, or one of them and not the other. -/
def Contradictory (ks : List Clause) : Prop :=
  ∃ a f, Clause.flag .abstract a ∈ ks ∧ Clause.flag .final f ∈ ks ∧ (a = true ∨ f = true)

theorem Contradictory.mono {ks ls : List Clause} (h : Contradictory ks) (hs : ks ⊆ ls) :
    Contradictory ls := by
  obtain ⟨a, f, ha, hf, haf⟩ := h
  exact ⟨a, f, hs ha, hs hf, haf⟩

theorem not_contradictory_nil : ¬ Contradictory [] := by
  rintro ⟨a, f, ha, -⟩
  exact List.not_mem_nil ha

namespace Constraints

/-- The constraints contain the clause. -/
def Requires (k : Constraints) : Clause → Prop
  | .flag .abstract b => k.isAbstract = some b
  | .flag .final b => k.isFinal = some b
  | .flag .static b => k.isStatic = some b
  | .access a => k.access = some a

/-- The constraints contain the clauses of the list and no others. -/
def Collects (k : Constraints) (ks : List Clause) : Prop := ∀ c, k.Requires c ↔ c ∈ ks

theorem requires_add_iff {k : Constraints} {c d : Clause} :
    (k.add c).Requires d ↔ d = c ∨ (d.category ≠ c.category ∧ k.Requires d) := by
  rcases c with ⟨⟨⟩, b⟩ | a <;> rcases d with ⟨⟨⟩, b'⟩ | a' <;>
    simp [Requires, add, Clause.category, eq_comm]

theorem collects_nil : ({} : Constraints).Collects [] := by
  intro c
  rcases c with ⟨⟨⟩, b⟩ | a <;> simp [Requires]

/-- A clause of a new category adds itself and changes nothing else. -/
theorem Collects.add {k : Constraints} {ks : List Clause} {c : Clause} (h : k.Collects ks)
    (hc : c.category ∉ ks.map Clause.category) : (k.add c).Collects (ks ++ [c]) := by
  intro d
  rw [requires_add_iff, h d, List.mem_append, List.mem_singleton]
  constructor
  · rintro (hd | ⟨-, hd⟩)
    · exact Or.inr hd
    · exact Or.inl hd
  · rintro (hd | hd)
    · exact Or.inr ⟨fun he => hc (he ▸ List.mem_map_of_mem hd), hd⟩
    · exact Or.inl hd

/-- A list of clauses determines the constraints. -/
theorem Collects.unique {k l : Constraints} {ks : List Clause} (hk : k.Collects ks)
    (hl : l.Collects ks) : k = l := by
  have h (c : Clause) : k.Requires c ↔ l.Requires c := (hk c).trans (hl c).symm
  obtain ⟨s, a, b, f⟩ := k
  obtain ⟨s', a', b', f'⟩ := l
  congr
  · exact Option.ext fun x => h (.flag .static x)
  · exact Option.ext fun x => h (.access x)
  · exact Option.ext fun x => h (.flag .abstract x)
  · exact Option.ext fun x => h (.flag .final x)

theorem conflicting_iff {k : Constraints} :
    k.conflicting = true ↔
      ∃ a f, k.Requires (.flag .abstract a) ∧ k.Requires (.flag .final f) ∧
        (a = true ∨ f = true) := by
  obtain ⟨s, a, b, f⟩ := k
  cases b <;> cases f <;> simp [conflicting, Conformance.conflicting, Requires]

theorem Collects.conflicting_iff {k : Constraints} {ks : List Clause} (h : k.Collects ks) :
    k.conflicting = true ↔ Contradictory ks := by
  rw [Constraints.conflicting_iff]
  simp only [h _, Contradictory]

theorem Collects.conflicting_eq_false {k : Constraints} {ks : List Clause} (h : k.Collects ks)
    (hks : ¬ Contradictory ks) : k.conflicting = false :=
  Bool.eq_false_iff.mpr fun hk => hks (h.conflicting_iff.mp hk)

end Constraints

namespace Spec

/-! ### Texts -/

/-- A long form from its first word on. Blanks stand behind the words; between two of them they
are missing only in front of an exclamation mark. -/
inductive Sentence (name : List Char) : List Clause → List Char → Prop where
  /-- The word `function`, blanks and the name. -/
  | function {v : List Char} : AllBlank v → v ≠ [] → isIdentifier name = true →
      Sentence name [] (functionWord ++ (v ++ name))
  /-- The keyword of a clause, blanks and the rest. -/
  | clause {k : Clause} {ks : List Clause} {w cs : List Char} : AllBlank w →
      (w = [] → cs.head? = some '!') → Sentence name ks cs →
      Sentence name (k :: ks) (k.keyword.toList ++ (w ++ cs))

/-- What a text says: its clauses and the name. -/
inductive Denotes : List Char → List Clause → List Char → Prop where
  /-- A name alone. -/
  | bare {name : List Char} : isIdentifier name = true → Denotes name [] name
  /-- A long form behind any blanks, whose clauses are of different categories and do not
  contradict each other. -/
  | long {w cs name : List Char} {ks : List Clause} : AllBlank w → Sentence name ks cs →
      (ks.map Clause.category).Nodup → ¬ Contradictory ks → Denotes (w ++ cs) ks name

/-- The text opens with the clauses, each behind any blanks and up to a word boundary; `rest` is
what is behind them. -/
inductive Opens (rest : List Char) : List Clause → List Char → Prop where
  /-- Without clauses, all of the text is behind them. -/
  | nil : Opens rest [] rest
  /-- Blanks, the keyword of the first clause and the others. -/
  | cons {k : Clause} {ks : List Clause} {w cs : List Char} : AllBlank w →
      startsOutsideWord cs = true → Opens rest ks cs →
      Opens rest (k :: ks) (w ++ (k.keyword.toList ++ cs))

namespace Sentence

variable {name cs : List Char} {ks : List Clause}

theorem isIdentifier_name (h : Sentence name ks cs) : isIdentifier name = true := by
  induction h with
  | function _ _ hn => exact hn
  | clause _ _ _ ih => exact ih

/-- A long form begins with an exclamation mark or a word character. -/
theorem exists_cons (h : Sentence name ks cs) :
    ∃ c ds, cs = c :: ds ∧ (c = '!' ∨ isAsciiWord c = true) := by
  cases h with
  | function hv hne hn => exact ⟨'f', _, rfl, by decide⟩
  | @clause k _ w cs hw hsep hs =>
    obtain ⟨c, ds, hc, hb⟩ := k.exists_cons_keyword
    exact ⟨c, ds ++ (w ++ cs), by rw [hc, List.cons_append], hb⟩

/-- There is a blank in front of the name. -/
theorem exists_blank (h : Sentence name ks cs) : ∃ c ∈ cs, isBlank c = true := by
  induction h with
  | @function v hv hne hn =>
    obtain ⟨c, v, rfl⟩ := List.exists_cons_of_ne_nil hne
    exact ⟨c, by simp, hv c List.mem_cons_self⟩
  | clause _ _ _ ih =>
    obtain ⟨c, hc, hb⟩ := ih
    exact ⟨c, by simp [hc], hb⟩

/-- The keyword in front of a long form ends at a word boundary. -/
theorem startsOutsideWord_append {w : List Char} (hw : AllBlank w)
    (hsep : w = [] → cs.head? = some '!') : startsOutsideWord (w ++ cs) = true := by
  by_cases hne : w = []
  · obtain ⟨ds, rfl⟩ := List.head?_eq_some_iff.mp (hsep hne)
    subst hne
    exact (by decide : (!isAsciiWord '!') = true)
  · exact Text.startsOutsideWord_append hw hne cs

/-- A long form opens with its clauses, behind which stand the word `function` and the name. -/
theorem opens (h : Sentence name ks cs) {w : List Char} (hw : AllBlank w) :
    ∃ u v, AllBlank u ∧ AllBlank v ∧ v ≠ [] ∧
      Opens (u ++ (functionWord ++ (v ++ name))) ks (w ++ cs) := by
  induction h generalizing w with
  | @function v hv hne hn => exact ⟨w, v, hw, hv, hne, Opens.nil⟩
  | clause hw' hsep _ ih =>
    obtain ⟨u, v, hu, hv, hne, ho⟩ := ih hw'
    exact ⟨u, v, hu, hv, hne, Opens.cons hw (startsOutsideWord_append hw' hsep) ho⟩

end Sentence

/-- Clauses with the word `function` and a name behind them are a long form behind blanks. -/
theorem Opens.sentence {ks : List Clause} {rest cs v name : List Char} (h : Opens rest ks cs)
    (hrest : trimStart rest = functionWord ++ (v ++ name)) (hv : AllBlank v) (hne : v ≠ [])
    (hn : isIdentifier name = true) :
    ∃ w ds, AllBlank w ∧ Sentence name ks ds ∧ cs = w ++ ds := by
  induction h with
  | nil =>
    obtain ⟨w, hw, hr⟩ := exists_append_trimStart rest
    exact ⟨w, _, hw, Sentence.function hv hne hn, by rw [← hrest]; exact hr⟩
  | @cons k ks w cs hw hb _ ih =>
    obtain ⟨u, ds, hu, hs, rfl⟩ := ih
    refine ⟨w, _, hw, Sentence.clause hu ?_ hs, rfl⟩
    rintro rfl
    -- nothing stands behind the keyword, so that its boundary is the exclamation mark
    obtain ⟨c, ds, rfl, rfl | hc⟩ := hs.exists_cons
    · rfl
    · simp [startsOutsideWord, hc] at hb

end Spec

end Conformance
