import Conformance.Proofs.Reading

/-!
# Writing and reading specifications

A specification is written as its clauses, each with a blank behind it, the word `method` and its
name. With the word `function` in the place of `method` this text is read as the specification
(`Spec.parse_function_of_text`). So the words of a specification determine it, and each
specification is denoted by some text.
-/

namespace Conformance

open Text

/-- The last occurrence of an element divides a list in one way. -/
theorem eq_of_append_cons_append {α : Type} {x : α} {u v m n : List α} (hm : x ∉ m) (hn : x ∉ n)
    (h : u ++ x :: m = v ++ x :: n) : u = v ∧ m = n := by
  rcases List.append_eq_append_iff.mp h with ⟨as, rfl, has⟩ | ⟨as, rfl, has⟩
  · cases as with
    | nil => simpa using has
    | cons a as =>
      obtain ⟨-, rfl⟩ := List.cons.inj has
      exact absurd (List.mem_append_right as List.mem_cons_self) hm
  · cases as with
    | nil => simpa [eq_comm] using has
    | cons a as =>
      obtain ⟨-, rfl⟩ := List.cons.inj has
      exact absurd (List.mem_append_right as List.mem_cons_self) hn

/-! ### The clauses that constraints consist of -/

namespace Constraints

theorem collects_clauses (k : Constraints) : k.Collects k.clauses := by
  obtain ⟨s, a, b, f⟩ := k
  rintro (⟨⟨⟩, x⟩ | x) <;> simp [Requires, clauses]

/-- The constraints have at most one clause of each category. -/
theorem nodup_map_category_clauses (k : Constraints) :
    (k.clauses.map Clause.category).Nodup := by
  obtain ⟨s, a, b, f⟩ := k
  cases s <;> cases a <;> cases b <;> cases f <;>
    simp [clauses, Clause.category]

end Constraints

namespace Spec

theorem not_contradictory_clauses (s : Spec) : ¬ Contradictory s.clauses := by
  rw [← (s.collects_clauses).conflicting_iff, s.consistent]
  exact Bool.false_ne_true

/-! ### The text of clauses -/

theorem clausesText_cons (k : Clause) (ks : List Clause) :
    clausesText (k :: ks) = clauseText k ++ clausesText ks := String.join_cons

theorem toList_clauseText_append (k : Clause) (rest : String) :
    (clauseText k ++ rest).toList = k.keyword.toList ++ ([' '] ++ rest.toList) := by
  simp only [clauseText, String.toList_append, List.append_assoc]
  rfl

theorem toList_clausesText_cons (k : Clause) (ks : List Clause) :
    (clausesText (k :: ks)).toList = k.keyword.toList ++ ([' '] ++ (clausesText ks).toList) := by
  rw [clausesText_cons, toList_clauseText_append]

/-- Clauses as they are written, the word `function` and a name are a long form. -/
theorem sentence_clausesText (ks : List Clause) {name : List Char}
    (hn : isIdentifier name = true) :
    Sentence name ks ((clausesText ks).toList ++ (functionWord ++ ([' '] ++ name))) := by
  induction ks with
  | nil => exact Sentence.function .single (List.cons_ne_nil _ _) hn
  | cons k ks ih =>
    rw [toList_clausesText_cons, List.append_assoc, List.append_assoc]
    exact Sentence.clause .single (fun h => absurd h (List.cons_ne_nil _ _)) ih

/-- What a specification consists of, with the word `function` in front of its name. -/
theorem parse_clausesText (s : Spec) :
    parse (clausesText s.clauses ++ "function " ++ s.name) = .ok s := by
  refine parse_of_denotes ?_ s.collects_clauses
  have hs := sentence_clausesText s.clauses s.isIdentifier_name
  have hd := Denotes.long AllBlank.nil hs s.nodup_map_category_clauses s.not_contradictory_clauses
  rw [String.toList_append, String.toList_append, List.append_assoc]
  exact hd

/-! ### Writing is faithful -/

theorem text_eq (s : Spec) : s.text = clausesText s.clauses ++ "method " ++ s.name := by
  rw [text, String.append_assoc]

/-- What stands in front of the word `method` are the clauses. -/
theorem eq_clausesText_of_text {s : Spec} {q : String} (h : s.text = q ++ "method " ++ s.name) :
    q = clausesText s.clauses := by
  rw [text_eq, String.append_left_inj, String.append_left_inj] at h
  exact h.symm

/-- A text with the word `function` in the place of the word `method` is read as the specification
that it was written for. -/
theorem parse_function_of_text {s : Spec} {q : String} (h : s.text = q ++ "method " ++ s.name) :
    parse (q ++ "function " ++ s.name) = .ok s := by
  rw [eq_clausesText_of_text h]
  exact parse_clausesText s

theorem blank_not_mem_name (s : Spec) : ' ' ∉ s.name.toList := fun h =>
  absurd (isAsciiWord_of_mem s.isIdentifier_name ' ' h) (by decide)

theorem toList_text (s : Spec) :
    s.text.toList =
      ((clausesText s.clauses).toList ++ "method".toList) ++ ' ' :: s.name.toList := by
  rw [text_eq, String.toList_append, String.toList_append, List.append_assoc, List.append_assoc]
  rfl

/-- Different specifications are written differently. -/
theorem eq_of_text_eq {s t : Spec} (h : s.text = t.text) : s = t := by
  have hl : s.text.toList = t.text.toList := congrArg String.toList h
  rw [toList_text, toList_text] at hl
  obtain ⟨hq, hn⟩ := eq_of_append_cons_append s.blank_not_mem_name t.blank_not_mem_name hl
  have hc := String.toList_inj.mp (List.append_cancel_right hq)
  have hs := parse_clausesText s
  rw [hc, String.toList_inj.mp hn, parse_clausesText t] at hs
  exact (Except.ok.inj hs).symm

/-- **Reading undoes writing**: what is written for a specification ends in the word `method` and
the name, and with the word `function` instead it is read as the specification. Hence no two
specifications are written alike, each one is denoted by some text, and writing down what a text is
read as and reading it again gives the same. -/
theorem parse_undoes_text :
    (∀ s : Spec, (∃ q, s.text = q ++ "method " ++ s.name) ∧
      ∀ q, s.text = q ++ "method " ++ s.name → parse (q ++ "function " ++ s.name) = .ok s) ∧
    Function.Injective text ∧
    (∀ s : Spec, ∃ t, parse t = .ok s) ∧
    ∀ (t : String) (s : Spec), parse t = .ok s →
      ∃ q, s.text = q ++ "method " ++ s.name ∧ parse (q ++ "function " ++ s.name) = parse t := by
  refine ⟨fun s => ⟨⟨_, text_eq s⟩, fun q h => parse_function_of_text h⟩,
    fun s t h => eq_of_text_eq h, fun s => ⟨_, parse_clausesText s⟩,
    fun t s h => ⟨_, text_eq s, ?_⟩⟩
  rw [h]
  exact parse_clausesText s

end Spec

end Conformance
