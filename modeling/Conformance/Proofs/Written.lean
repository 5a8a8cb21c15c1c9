import Conformance.Proofs.Demands
import Conformance.Proofs.Handover

/-!
# Descriptions are no specifications

A specification and a method are described in words that end in `method` and a name. Up to the word
`method` the words are clauses that are read as such, and no clause and no other word of the grammar
begins as `method` does (`Spec.Stops.method`). So a description is refused from that word on, whatever
the name is (`Spec.parse_clausesText_method`). The one exception is the description of a method that is
abstract and final, which is refused earlier.
-/

namespace Conformance

open Text

namespace Text

/-- A text does not begin with a word that begins otherwise. -/
theorem not_startsWith_of_head?_ne {word cs : List Char} (hne : word ≠ [])
    (h : word.head? ≠ cs.head?) : ¬ StartsWith word cs := by
  rintro ⟨rest, rfl, -⟩
  obtain ⟨c, word, rfl⟩ := List.exists_cons_of_ne_nil hne
  exact h rfl

end Text

namespace Spec

/-! ### The word `method` -/

theorem head?_keyword_ne (k : Clause) : k.keyword.toList.head? ≠ some 'm' := by
  rcases k with ⟨⟨⟩, _ | _⟩ | ⟨⟨⟩⟩ | ⟨⟨⟩⟩ <;> decide

/-- Behind clauses a text cannot go on with the word `method`. -/
theorem Stops.method {ks : List Clause} {p cs : List Char} (h : Leads ks p ('m' :: cs)) :
    Stops .word p ('m' :: cs) := by
  have htrimmed : IsTrimmed ('m' :: cs) := by
    intro c hc
    obtain rfl : 'm' = c := Option.some.inj hc
    decide
  refine .word h htrimmed ?_ fun k hk => ?_
  · have hhead : functionWord.head? ≠ some 'm' := by decide
    exact not_startsWith_of_head?_ne isWord_functionWord.1 hhead
  · exact absurd hk (not_startsWith_of_head?_ne k.isWord_keyword.1 (head?_keyword_ne k))

/-- Clauses in front of the word `method` are passed over, and the text is refused from there on. -/
theorem parse_clausesText_method {ks : List Clause} (hd : (ks.map Clause.category).Nodup)
    (hc : ¬ Contradictory ks) (name : String) :
    parse (clausesText ks ++ ("method " ++ name)) =
      .error (.malformedSpec ("method " ++ name)) := by
  have hmethod : ("method " ++ name).toList = 'm' :: ("ethod ".toList ++ name.toList) :=
    String.toList_append
  have hleads : Leads ks (clausesText ks).toList ("method " ++ name).toList :=
    leads_clausesText hd hc _
  refine parse_of_stops (g := .word) ?_ (isIdentifier_eq_false (c := ' ') (by simp) (by decide))
  rw [hmethod] at hleads ⊢
  exact .method hleads

/-- The description of a specification is refused from the word `method` on. -/
theorem parse_text (s : Spec) : parse s.text = .error (.malformedSpec ("method " ++ s.name)) := by
  rw [text_eq, String.append_assoc]
  exact parse_clausesText_method s.nodup_map_category_clauses s.not_contradictory_clauses s.name

end Spec

namespace Descriptor

variable {d : Descriptor}

/-- The description of a method that is not both abstract and final is refused from the word `method`
on. -/
theorem parse_text (h : ¬ (d.flag .abstract = true ∧ d.flag .final = true)) :
    Spec.parse d.text = .error (.malformedSpec ("method " ++ d.name)) := by
  have hfree : ¬ Contradictory d.modifiers.demands.clauses := by
    rw [← (Constraints.collects_clauses _).conflicting_iff, Modifiers.conflicting_demands,
      Bool.and_eq_true]
    exact h
  rw [text_eq, String.append_assoc]
  exact Spec.parse_clausesText_method (Constraints.nodup_map_category_clauses _) hfree d.name

/-- The description of a method that is abstract and final is refused from the second of these words
on. -/
theorem parse_text_of_abstract_final (ha : d.flag .abstract = true) (hf : d.flag .final = true) :
    ∃ rest, d.text = "final " ++ ("abstract " ++ rest) ∧
      Spec.parse d.text = .error (.malformedSpec ("abstract " ++ rest)) := by
  obtain ⟨rest, hrest⟩ := exists_clausesText_eq ha hf
  have hcontradictory : Contradictory [.flag .final true, .flag .abstract true] :=
    ⟨true, true, by simp, by simp, Or.inl rfl⟩
  have htext : d.text = "final " ++ ("abstract " ++ (rest ++ "method " ++ d.name)) := by
    rw [text_eq, hrest]
    simp only [String.append_assoc]
  refine ⟨rest ++ "method " ++ d.name, htext, ?_⟩
  rw [htext]
  exact Spec.parse_of_contradictory hcontradictory _

end Descriptor

namespace Predicate

/-- A text that breaks the grammar makes no predicate: who handed it over is told from where on. -/
theorem create_of_parse_eq_error {text remaining : String}
    (h : Spec.parse text = .error (.malformedSpec remaining)) (w : World) (resolver : Option Resolver)
    (maker : String) :
    create w (.value (.str text)) resolver maker =
      .error (.invalidSpec (createContext maker) text ("syntax error at \"" ++ remaining ++ "\"")
        (some remaining)) := by
  simp only [create_of_specText (World.specText_str text), ofText, h, blame]
  rfl

/-- **A description is never a specification.** The words that a specification is described in, and
those that a method is described in which is not both abstract and final, are refused from the word
`method` on, whatever the modifiers and the name are, and so no predicate is made from them. The
description of a method that is abstract and final is refused as well, from the word `abstract` on. -/
theorem description_refused (w : World) (resolver : Option Resolver) (maker : String) :
    (∀ s : Spec, Spec.parse s.text = .error (.malformedSpec ("method " ++ s.name)) ∧
      create w (.value (.str s.text)) resolver maker =
        .error (.invalidSpec (createContext maker) s.text
          ("syntax error at \"" ++ ("method " ++ s.name) ++ "\"") (some ("method " ++ s.name)))) ∧
    ∀ d : Descriptor,
      (¬ (d.flag .abstract = true ∧ d.flag .final = true) →
        Spec.parse d.text = .error (.malformedSpec ("method " ++ d.name)) ∧
        create w (.value (.str d.text)) resolver maker =
          .error (.invalidSpec (createContext maker) d.text
            ("syntax error at \"" ++ ("method " ++ d.name) ++ "\"") (some ("method " ++ d.name)))) ∧
      (d.flag .abstract = true → d.flag .final = true →
        ∃ rest, d.text = "final " ++ ("abstract " ++ rest) ∧
          Spec.parse d.text = .error (.malformedSpec ("abstract " ++ rest))) := by
  refine ⟨fun s => ⟨s.parse_text, ?_⟩, fun d => ⟨fun h => ⟨d.parse_text h, ?_⟩, ?_⟩⟩
  · exact create_of_parse_eq_error s.parse_text w resolver maker
  · exact create_of_parse_eq_error (d.parse_text h) w resolver maker
  · exact d.parse_text_of_abstract_final

/-- A private static method called `function` that is abstract. -/
def abstractFunction : Descriptor := ⟨"function", ⟨4 + 16 + 64⟩, by decide, by decide⟩

/-- The name `function` makes no difference. -/
theorem description_refused_abstractFunction :
    abstractFunction.text = "abstract private static method function" ∧
    Spec.parse "abstract private static method function" =
      .error (.malformedSpec "method function") ∧
    create {} (.value (.str "abstract private static method function")) none className =
      .error (.invalidSpec "Argument 1 passed to HasMethod.create()"
        "abstract private static method function" "syntax error at \"method function\""
        (some "method function")) := by
  obtain ⟨-, h⟩ := description_refused {} none className
  obtain ⟨hparse, hcreate⟩ := (h abstractFunction).1 (by decide)
  exact ⟨by decide, hparse, hcreate⟩

end Predicate

end Conformance
