import Conformance.Proofs.Handover
import Conformance.Proofs.Reading

/-!
# What reading may complain about

A text that is no specification is refused because it breaks the grammar, and for no other reason.
The word of a clause about access that is read names an access constraint
(`Spec.ofValue_of_readClause?`), and a name and constraints that are read pass every check that
building a specification makes (`Spec.create_of_read`). So making a predicate from a text either
gives the predicate for the specification, or tells of the text and of the place where it breaks
the grammar.
-/

namespace Conformance

open Text

/-- What is given for an access constraint that may be left open. -/
def AccessArgument.ofOption : Option Access → AccessArgument
  | none => .absent
  | some a => .access a

namespace Spec

/-! ### The words of clauses -/

theorem ofValue_keyword (a : Access) : Access.ofValue (.str a.keyword) = .ok a := by
  simp only [Access.ofValue, Access.ofKeyword?_keyword]

/-- The word of a clause about access that is read names the constraint. -/
theorem ofValue_of_readClause? {pending : List Category} {cs rest : List Char} {c : Clause}
    (h : readClause? pending cs = some (c, rest)) :
    ∃ word : String, cs = word.toList ++ rest ∧
      (c.category = .access → ∃ a, Access.ofValue (.str word) = .ok a ∧ c = .access a) := by
  obtain ⟨-, hcs, -⟩ := readClause?_eq_some_iff.mp h
  refine ⟨c.keyword, hcs, fun hc => ?_⟩
  cases c with
  | flag f b => cases hc
  | access a => exact ⟨a, ofValue_keyword a, rfl⟩

/-! ### Building what is read -/

/-- From a text for the name and an access constraint, a specification is built as from
constraints. -/
theorem create_str (name : String) (isStatic : Option Bool) (access : Option Access)
    (isAbstract isFinal : Option Bool) :
    create (.str name) isStatic (.ofOption access) isAbstract isFinal =
      ofConstraints name ⟨isStatic, access, isAbstract, isFinal⟩ := by
  by_cases hn : isIdentifier name.toList = true
  · cases access <;> simp [create, AccessArgument.ofOption, hn]
  · simp [create, ofConstraints, hn]

/-- A name and constraints that are read pass every check on the parts of a specification. -/
theorem create_of_read {text : String} {k : Constraints} {name : List Char}
    (h : read text.toList = .ok (k, name)) :
    ∃ s, create (.str (String.ofList name)) k.isStatic (.ofOption k.access) k.isAbstract k.isFinal =
      .ok s ∧ parse text = .ok s := by
  obtain ⟨s, -, -, hs⟩ := ofConstraints_of_read h
  refine ⟨s, ?_, ?_⟩
  · rw [create_str]
    exact hs
  · simp only [parse, h, hs]

/-- A text is read as a specification, or it breaks the grammar. -/
theorem parse_ok_or_malformed (text : String) :
    (∃ s, parse text = .ok s) ∨ ∃ remaining, parse text = .error (.malformedSpec remaining) := by
  cases h : read text.toList with
  | error remaining => exact Or.inr ⟨String.ofList remaining, by simp only [parse, h]⟩
  | ok p =>
    obtain ⟨k, name⟩ := p
    obtain ⟨s, -, hs⟩ := create_of_read h
    exact Or.inl ⟨s, hs⟩

end Spec

namespace Predicate

/-- **A text is refused for breaking the grammar only.** The clauses that are read are those that
their words name, and what is read passes every check on the parts of a specification. So a text
gives a predicate for the specification that it is read as, or a fault that tells of the text, that
has the words of the break of the grammar as its reason, and that break as its cause. -/
theorem create_ok_or_invalidSpec (w : World) (text : String) (resolver : Option Resolver)
    (maker : String) :
    (∀ (pending : List Category) (cs rest : List Char) (c : Clause),
      Spec.readClause? pending cs = some (c, rest) → ∃ word : String, cs = word.toList ++ rest ∧
        (c.category = .access → ∃ a, Access.ofValue (.str word) = .ok a ∧ c = .access a)) ∧
    (∀ (k : Constraints) (name : List Char), Spec.read text.toList = .ok (k, name) →
      ∃ s, Spec.create (.str (String.ofList name)) k.isStatic (.ofOption k.access) k.isAbstract
        k.isFinal = .ok s ∧ Spec.parse text = .ok s) ∧
    ((∃ s, Spec.parse text = .ok s ∧
        create w (.value (.str text)) resolver maker = .ok (ofSpec w s resolver)) ∨
      ∃ remaining fault, Spec.parse text = .error (.malformedSpec remaining) ∧
        create w (.value (.str text)) resolver maker = .error fault ∧
        fault = .invalidSpec (createContext maker) text (Fault.malformedSpec remaining).message
          (some remaining) ∧
        fault.cause? = some (.malformedSpec remaining)) := by
  refine ⟨fun _ _ _ _ h => Spec.ofValue_of_readClause? h, fun _ _ h => Spec.create_of_read h, ?_⟩
  rcases Spec.parse_ok_or_malformed text with ⟨s, hs⟩ | ⟨remaining, hr⟩
  · exact Or.inl ⟨s, hs, by simp only [create_of_specText (World.specText_str text), ofText, hs]⟩
  · exact Or.inr ⟨remaining, _, hr,
      by simp only [create_of_specText (World.specText_str text), ofText, hr, blame], rfl, rfl⟩

end Predicate

end Conformance
