import Conformance.Proofs.Attributes
import Conformance.Proofs.Handover
import Conformance.Proofs.Reading
import Conformance.World.Declaration

/-!
# What a predicate holds of

A text is met by an attribute (`World.MeetsText`) if the subject stands for a class, the attribute
is the first one that the lineage of the class has under the name in the text, it is a method, and
it is as every clause of the text says. This is said without parsing, without descriptors and
without bits.

A predicate that is made from the text holds of the subject if and only if there is such an
attribute, with one reservation: a method is described with all its flags, whether or not the text
mentions them, and a method that does not answer all that it is asked for that
(`World.IsDescribable`) makes the predicate complain. There are such methods, as the world
`World.blankTruth` shows.
-/

namespace Conformance

/-! ### Meeting a text -/

namespace World

variable (w : World)

/-- The attribute, as found under the name, is as the clause says. -/
def Meets (name : String) (a : Value) : Clause → Prop
  | .flag f b => w.HasFlag a f ↔ b = true
  | .access acc => acc.allows (Visibility.ofName name) = true

/-- The attribute is what the subject has under the name that the text denotes, it is a method, and
it is as every clause of the text says. -/
def MeetsText (text : String) (subject a : Value) : Prop :=
  ∃ (ks : List Clause) (name : String) (c : Value) (owners : List Value),
    Spec.Denotes text.toList ks name.toList ∧ w.resolve subject = .ok (some c) ∧
      w.ancestors c = .ok owners ∧ w.FirstKept name owners a ∧ w.IsMethod a ∧
      ∀ k ∈ ks, w.Meets name a k

/-- The attribute answers all that it is asked for its description. -/
def IsDescribable (a : Value) : Prop := ∃ t, w.traits? a = .ok t

variable {w}

/-- An attribute is as a clause says if and only if its description is. -/
theorem Describes.meets_iff {a : Value} {t : Traits} {name : String} {k : Clause}
    (h : w.Describes a t) : w.Meets name a k ↔ k.MetBy (.ofName name) t := by
  cases k with
  | flag f b =>
    rw [Meets, Clause.MetBy, ← h f, ← Bool.eq_iff_iff]
  | access acc => exact Iff.rfl

/-! ### Finding methods -/

/-- An attribute is described as a method if and only if it has traits. -/
theorem describe_eq_some_iff {name : String} {a : Value} {v : Visibility} {d : Descriptor} :
    w.describe name a v = .ok (some d) ↔
      ∃ t, w.traits? a = .ok (some t) ∧ Descriptor.create name v t = .ok d := by
  constructor
  · intro h
    obtain ⟨r, ht, h⟩ := bind_eq_ok_iff.mp h
    cases r with
    | none => cases h
    | some t =>
      refine ⟨t, Outcome.orFault_eq_ok_iff.mp ht, ?_⟩
      cases hd : Descriptor.create name v t with
      | error x => simp [hd, Except.map] at h
      | ok d' => simpa [hd, Except.map] using h
  · rintro ⟨t, ht, hd⟩
    simp only [describe, ht, Outcome.orFault_ok, ok_bind, hd]
    rfl

/-- An attribute is described as no method if and only if it has no traits. -/
theorem describe_eq_none_iff {name : String} {a : Value} {v : Visibility} :
    w.describe name a v = .ok none ↔ w.traits? a = .ok none := by
  constructor
  · intro h
    obtain ⟨r, hr, h⟩ := bind_eq_ok_iff.mp h
    cases r with
    | none => exact Outcome.orFault_eq_ok_iff.mp hr
    | some t => cases hd : Descriptor.create name v t <;> simp [hd, Except.map] at h
  · intro h
    rw [describe, h]
    rfl

theorem findMethod_of_ancestors {c : Value} {owners : List Value} {name : String}
    (ho : w.ancestors c = .ok owners) : w.findMethod c name = w.findMethodAmong owners name := by
  rw [findMethod, ho, Outcome.orFault_ok, ok_bind]

/-- Looking for a method comes to the description of what is kept first. -/
theorem findMethod_of_firstKept {c : Value} {owners : List Value} {name : String} {a : Value}
    (ho : w.ancestors c = .ok owners) (ha : w.FirstKept name owners a) :
    w.findMethod c name = w.describe name a (.ofName name) := by
  rw [findMethod_of_ancestors ho, findMethodAmong, definitionAmong?_eq_some_iff.mpr ha,
    Outcome.orFault_ok, ok_bind]

/-- A method that is found is kept first. -/
theorem exists_firstKept_of_findMethod {c : Value} {name : String} {d : Descriptor}
    (h : w.findMethod c name = .ok (some d)) :
    ∃ owners a, w.ancestors c = .ok owners ∧ w.FirstKept name owners a ∧
      w.describe name a (.ofName name) = .ok (some d) := by
  obtain ⟨owners, ho, h⟩ := bind_eq_ok_iff.mp h
  obtain ⟨r, hr, h⟩ := bind_eq_ok_iff.mp h
  cases r with
  | none => cases h
  | some a =>
    exact ⟨owners, a, Outcome.orFault_eq_ok_iff.mp ho,
      definitionAmong?_eq_some_iff.mp (Outcome.orFault_eq_ok_iff.mp hr), h⟩

end World

/-! ### Predicates -/

namespace Predicate

variable {w : World} {s : Spec} {subject : Value}

/-- Asked of a subject that stands for a class, a predicate looks for the method there. -/
theorem holds_of_resolve {c : Value} (h : w.resolve subject = .ok (some c)) :
    (ofSpec w s none).holds subject =
      (do
        match ← w.findMethod c s.name with
        | none => .ok false
        | some d => .ok (s.accepts d)) := by
  have hc : (ofSpec w s none).resolver.resolve subject = .ok (some c) :=
    Outcome.orFault_eq_ok_iff.mpr h
  rw [holds, findMethod, hc]
  rfl

theorem holds_eq_true_iff :
    (ofSpec w s none).holds subject = .ok true ↔
      ∃ c d, w.resolve subject = .ok (some c) ∧ w.findMethod c s.name = .ok (some d) ∧
        s.accepts d = true := by
  constructor
  · intro h
    obtain ⟨found, hfound, h⟩ := bind_eq_ok_iff.mp h
    obtain ⟨r, hr, hfound⟩ := bind_eq_ok_iff.mp hfound
    cases r with
    | none =>
      obtain rfl := Except.ok.inj hfound
      cases h
    | some c =>
      cases found with
      | none => cases h
      | some d => exact ⟨c, d, Outcome.orFault_eq_ok_iff.mp hr, hfound, Except.ok.inj h⟩
  · rintro ⟨c, d, hc, hd, ha⟩
    rw [holds_of_resolve hc, hd]
    exact congrArg Except.ok ha

/-- A predicate holds of a subject if and only if the subject stands for a class where what is kept
first under the name has traits that meet every clause. -/
theorem holds_iff_traits :
    (ofSpec w s none).holds subject = .ok true ↔
      ∃ c owners a t, w.resolve subject = .ok (some c) ∧ w.ancestors c = .ok owners ∧
        w.FirstKept s.name owners a ∧ w.traits? a = .ok (some t) ∧
        ∀ k, s.Requires k → k.MetBy (.ofName s.name) t := by
  rw [holds_eq_true_iff]
  constructor
  · rintro ⟨c, d, hc, hd, ha⟩
    obtain ⟨owners, a, ho, hf, hd⟩ := World.exists_firstKept_of_findMethod hd
    obtain ⟨t, ht, hd⟩ := World.describe_eq_some_iff.mp hd
    exact ⟨c, owners, a, t, hc, ho, hf, ht, (Spec.accepts_iff hd).mp ha⟩
  · rintro ⟨c, owners, a, t, hc, ho, hf, ht, hm⟩
    obtain ⟨d, hd⟩ := Descriptor.exists_create (v := .ofName s.name) (t := t) s.name_ne_empty
    refine ⟨c, d, hc, ?_, (Spec.accepts_iff hd).mpr hm⟩
    rw [World.findMethod_of_firstKept ho hf]
    exact World.describe_eq_some_iff.mpr ⟨t, ht, hd⟩

/-- A text makes a predicate for the specification that it denotes. -/
theorem create_eq_ok_iff {text : String} {p : Predicate} :
    create w (.value (.str text)) none = .ok p ↔
      ∃ s, Spec.parse text = .ok s ∧ p = ofSpec w s none := by
  rw [create_of_specText (World.specText_str text)]
  simp only [ofText]
  cases hs : Spec.parse text with
  | error x => simp
  | ok s => simp [eq_comm]

/-- What a predicate that is made from a text says of a subject, with the resolver that looks at the
world. -/
def verdict (w : World) (text : String) (subject : Value) : Except Fault Bool := do
  (← create w (.value (.str text)) none).holds subject

theorem verdict_of_parse {text : String} (h : Spec.parse text = .ok s) :
    verdict w text subject = (ofSpec w s none).holds subject := by
  rw [verdict, create_eq_ok_iff.mpr ⟨s, h, rfl⟩, ok_bind]

/-- The verdict on a text is positive if and only if an attribute meets the text and can be
described. -/
theorem verdict_eq_true_iff {text : String} :
    verdict w text subject = .ok true ↔ ∃ a, w.MeetsText text subject a ∧ w.IsDescribable a := by
  constructor
  · intro h
    obtain ⟨p, hp, h⟩ := bind_eq_ok_iff.mp h
    obtain ⟨s, hs, rfl⟩ := create_eq_ok_iff.mp hp
    obtain ⟨ks, hks, hd⟩ := Spec.denotes_of_parse hs
    obtain ⟨c, owners, a, t, hc, ho, hf, ht, hm⟩ := holds_iff_traits.mp h
    refine ⟨a, ⟨ks, s.name, c, owners, hd, hc, ho, hf, World.isMethod_of_traits? ht, ?_⟩, _, ht⟩
    intro k hk
    exact (World.describes_of_traits? ht).meets_iff.mpr (hm k ((hks k).mpr hk))
  · rintro ⟨a, ⟨ks, name, c, owners, hd, hc, ho, hf, hmethod, hm⟩, r, ht⟩
    obtain ⟨s, hname, hks, hs⟩ := Spec.exists_parse_of_denotes hd
    obtain rfl := String.toList_inj.mp hname
    cases r with
    | none => exact absurd hmethod (World.not_isMethod_of_traits? ht)
    | some t =>
      rw [verdict_of_parse hs]
      refine holds_iff_traits.mpr ⟨c, owners, a, t, hc, ho, hf, ht, fun k hk => ?_⟩
      -- the clauses of the text are those that the specification requires
      exact (World.describes_of_traits? ht).meets_iff.mp (hm k ((hks k).mp hk))

/-- An attribute that meets a text and complains when it is described is complained of. -/
theorem verdict_of_complaint {text : String} {a : Value} {x : Complaint}
    (h : w.MeetsText text subject a) (hx : w.traits? a = .error x) :
    verdict w text subject = .error (.complaint x) := by
  obtain ⟨ks, name, c, owners, hd, hc, ho, hf, -, -⟩ := h
  obtain ⟨s, hname, -, hs⟩ := Spec.exists_parse_of_denotes hd
  obtain rfl := String.toList_inj.mp hname
  rw [verdict_of_parse hs, holds_of_resolve hc, World.findMethod_of_firstKept ho hf,
    World.describe, hx, Outcome.orFault_error, error_bind, error_bind]

/-- **What a predicate that is made from a text holds of.** It holds of exactly the subjects where
an attribute meets the text, if and only if all attributes that do can be described. In any case it
holds if and only if an attribute meets the text and can be described, and where one meets the text
and complains when it is described, the predicate complains of the same. -/
theorem verdict_iff_meetsText (w : World) (text : String) (subject : Value) :
    ((verdict w text subject = .ok true ↔ ∃ a, w.MeetsText text subject a) ↔
        ∀ a, w.MeetsText text subject a → w.IsDescribable a) ∧
      (verdict w text subject = .ok true ↔
        ∃ a, w.MeetsText text subject a ∧ w.IsDescribable a) ∧
      ∀ a x, w.MeetsText text subject a → w.traits? a = .error x →
        verdict w text subject = .error (.complaint x) := by
  refine ⟨⟨fun h a ha => ?_, fun h => ?_⟩, verdict_eq_true_iff,
    fun a x ha hx => verdict_of_complaint ha hx⟩
  · cases hx : w.traits? a with
    | ok t => exact ⟨t, hx⟩
    | error x => cases (verdict_of_complaint ha hx).symm.trans (h.mpr ⟨a, ha⟩)
  · rw [verdict_eq_true_iff]
    exact exists_congr fun a => and_iff_left_of_imp (h a)

end Predicate

/-! ### A method that cannot be described -/

/-- A class that is derived from nothing and has these members. -/
def Declaration.plain (name : String) (members : Members) : Declaration where
  id := name
  name := name
  qualname := name
  moduleName := "m"
  bases := []
  metaclass := none
  members := members
  display := none

/-- The specification of a method `a`, of which nothing is required. -/
def Spec.plain : Spec where
  name := "a"
  isIdentifier_name := by decide
  consistent := rfl

/-- The method `a` of the class `K` is an object of the class `A`. What it answers to the name of
the mark for abstract is an object of the class `T`, which has a function for truth values that
gives nothing. -/
def Declaration.blankTruth : List Declaration :=
  [.plain "T" [("__bool__", .function none none none)],
   .plain "A" [("__call__", .function none none none),
     (abstractMark, .instance (.declared "T") none)],
   .plain "K" [("a", .instance (.declared "A") none)]]

/-- The world with these classes. -/
def World.blankTruth : World := (Declaration.blankTruth.foldlM World.declare {}).toOption.getD {}

namespace Predicate

/-- The method `a` meets the text `a`, which says nothing but its name. A predicate that is made
from this text complains that the mark has no truth value. -/
theorem complaint_of_blank_truth :
    Declaration.blankTruth.foldlM World.declare {} = .ok World.blankTruth ∧
      (∃ a, World.blankTruth.MeetsText "a" (.cls (.declared "K")) a) ∧
        verdict World.blankTruth "a" (.cls (.declared "K")) =
          .error (.complaint (.truthExpected "NoneType")) := by
  refine ⟨rfl, ⟨.instance (.declared "A") none, [], "a", .cls (.declared "K"),
    [.cls (.declared "K"), .cls (.builtin .object)], .bare (by decide), rfl, rfl, ?_, ?_, ?_⟩, rfl⟩
  · exact .here (.literal (.present rfl rfl rfl))
  · exact Or.inr ⟨rfl, rfl⟩
  · intro k hk
    exact absurd hk List.not_mem_nil

end Predicate

end Conformance
