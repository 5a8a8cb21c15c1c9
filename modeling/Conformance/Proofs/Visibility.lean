import Conformance.Proofs.Explanation
import Conformance.Proofs.Refinement

/-!
# Visibility by name

A method is found under the name that was asked for, even where the class stores it under a mangled
name, and its visibility is the one that this name stands for (`World.visibility_of_findMethod`). So
a constraint on access says something about the name in the specification and nothing about the
subject: with it a predicate holds of what it holds of without it, or of nothing
(`Predicate.holds_eq_drop_access`).
-/

namespace Conformance

/-! ### Specifications and their constraint on access -/

namespace Spec

variable {s : Spec} {d : Descriptor}

/-- A specification accepts what it accepts without its constraint on access, if the visibility is
admitted. -/
theorem accepts_eq_drop_access :
    s.accepts d = ((s.drop .access).accepts d && s.admits d.visibility) := by
  have hrequired (f : Flag) : (s.drop .access).required f = s.required f := by cases f <;> rfl
  have hadmits : (s.drop .access).admits d.visibility = true := rfl
  rw [Bool.eq_iff_iff, Bool.and_eq_true, accepts_iff_admits, accepts_iff_admits]
  simp only [hrequired, hadmits, and_true, and_assoc]
  exact Iff.rfl

end Spec

/-! ### What is found -/

namespace World

variable {w : World} {c : Value} {name : String} {d : Descriptor}

/-- A method that is found has the visibility that the name stands for which was asked for. -/
theorem visibility_of_findMethod (h : w.findMethod c name = .ok (some d)) :
    d.visibility = .ofName name := by
  obtain ⟨_, _, _, _, hd⟩ := exists_firstKept_of_findMethod h
  obtain ⟨t, -, hd⟩ := describe_eq_some_iff.mp hd
  exact Descriptor.visibility_of_create hd

end World

/-! ### Predicates and their constraint on access -/

namespace Predicate

variable {w : World} {s : Spec} {subject : Value}

/-- The methods that a predicate finds are of the visibility that its name stands for. -/
theorem visibility_of_findMethod {d : Descriptor}
    (h : (ofSpec w s none).findMethod subject = .ok (some d)) :
    d.visibility = .ofName s.name := by
  obtain ⟨r, -, h⟩ := bind_eq_ok_iff.mp h
  cases r with
  | none => cases h
  | some c => exact World.visibility_of_findMethod h

/-- A predicate comes to what it comes to without its constraint on access, if the visibility that
its name stands for is admitted. -/
theorem holds_eq_drop_access :
    (ofSpec w s none).holds subject =
      ((ofSpec w (s.drop .access) none).holds subject).map fun b =>
        b && s.admits (.ofName s.name) := by
  -- the name is the same, so that both find the same
  have hsame : (ofSpec w (s.drop .access) none).findMethod subject =
      (ofSpec w s none).findMethod subject := rfl
  rw [holds, holds, hsame]
  cases hd : (ofSpec w s none).findMethod subject with
  | error x => rfl
  | ok found =>
    cases found with
    | none => rfl
    | some d =>
      have haccepts : s.accepts d = ((s.drop .access).accepts d && s.admits (.ofName s.name)) := by
        rw [Spec.accepts_eq_drop_access, visibility_of_findMethod hd]
      exact congrArg Except.ok haccepts

/-- **Access is decided by the name alone.** A method is found with the name that was asked for and
the visibility that this name stands for, whatever key it is stored under. Hence a predicate with a
constraint on access holds of a subject if and only if it does so without it and the constraint
admits the visibility of the name, and it complains if and only if it does so without it. If the
name contradicts the constraint, it holds of no subject. -/
theorem access_decided_by_name (w : World) :
    (∀ (c : Value) (name : String) (d : Descriptor), w.findMethod c name = .ok (some d) →
      d.name = name ∧ d.visibility = .ofName name) ∧
    ∀ (s : Spec) (a : Access), s.access = some a →
      (∀ subject, (ofSpec w s none).holds subject = .ok true ↔
        (ofSpec w (s.drop .access) none).holds subject = .ok true ∧
          a.bits.contains (Visibility.ofName s.name).modifier = true) ∧
      (∀ subject f, (ofSpec w s none).holds subject = .error f ↔
        (ofSpec w (s.drop .access) none).holds subject = .error f) ∧
      (a.bits.contains (Visibility.ofName s.name).modifier = false →
        ∀ subject, (ofSpec w s none).holds subject ≠ .ok true) := by
  refine ⟨fun c name d h => ⟨name_of_findMethod h, World.visibility_of_findMethod h⟩,
    fun s a ha => ?_⟩
  have hbits : a.bits.contains (Visibility.ofName s.name).modifier =
      s.admits (.ofName s.name) := by
    rw [← Constraints.accessBits_of_access ha, Constraints.contains_accessBits_modifier]
  have hiff (subject : Value) : (ofSpec w s none).holds subject = .ok true ↔
      (ofSpec w (s.drop .access) none).holds subject = .ok true ∧
        s.admits (.ofName s.name) = true := by
    rw [holds_eq_drop_access]
    cases (ofSpec w (s.drop .access) none).holds subject <;> simp [Except.map]
  rw [hbits]
  refine ⟨hiff, fun subject f => ?_, fun hno subject hs => ?_⟩
  · rw [holds_eq_drop_access]
    cases (ofSpec w (s.drop .access) none).holds subject <;> simp [Except.map]
  · exact Bool.false_ne_true (hno.symm.trans ((hiff subject).mp hs).2)

end Predicate

/-! ### A name that contradicts its access -/

/-- A class with a protected method, and with a private one that it stores under a mangled name. -/
def Declaration.hiding : List Declaration :=
  [.plain "K" [("_foo", .function none none none), ("_K__bar", .function none none none)]]

/-- The world with this class. -/
def World.hiding : World := (Declaration.hiding.foldlM World.declare {}).toOption.getD {}

/-- The specification of a public method whose name stands for a protected one. -/
def Spec.publicFoo : Spec where
  access := some (.only .pub)
  name := "_foo"
  isIdentifier_name := by decide
  consistent := rfl

namespace Predicate

/-- The private method is found as `__bar`. No subject has a public method `_foo`, even though the
class has a method of that name. -/
theorem access_decided_by_name_hiding :
    (∃ d, World.hiding.findMethod (.cls (.declared "K")) "__bar" = .ok (some d) ∧
      d.name = "__bar" ∧ d.visibility = .priv) ∧
    Spec.parse "public function _foo" = .ok Spec.publicFoo ∧
    (ofSpec World.hiding (Spec.publicFoo.drop .access) none).holds (.cls (.declared "K")) =
      .ok true ∧
    ∀ subject, (ofSpec World.hiding Spec.publicFoo none).holds subject ≠ .ok true := by
  obtain ⟨hfound, haccess⟩ := access_decided_by_name World.hiding
  let d : Descriptor := ⟨"__bar", ⟨4⟩, by decide, by decide⟩
  have hd : World.hiding.findMethod (.cls (.declared "K")) "__bar" = .ok (some d) := rfl
  exact ⟨⟨d, hd, hfound _ _ _ hd⟩, rfl, rfl, (haccess Spec.publicFoo _ rfl).2.2 (by decide)⟩

end Predicate

end Conformance
