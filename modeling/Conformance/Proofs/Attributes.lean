import Conformance.Lookup
import Conformance.Proofs.Descriptors
import Conformance.Proofs.Outcome

/-!
# What a class has under a name

What looking for a method comes to, said without the steps that it takes. `World.Keeps` says what a
class itself has under a name, `World.FirstKept` what the first class of a lineage that has
something there, and `World.IsMethod` and `World.HasFlag` which of that is a method and of which
kind. Each of them holds only if all that is asked on the way is answered.

Looking along a lineage finds exactly what is kept first (`World.definitionAmong?_eq_some_iff`). An
attribute that has traits is a method with these flags (`World.isMethod_of_traits?`,
`World.describes_of_traits?`), and one that is found to have none is no method
(`World.not_isMethod_of_traits?`).
-/

namespace Conformance

/-! ### Private names -/

/-- The name begins with two underscores and does not end with two. -/
def IsPrivateName (name : String) : Prop :=
  ['_', '_'] <+: name.toList ∧ ¬ ['_', '_'] <:+ name.toList

theorem Visibility.ofName_eq_priv_iff {name : String} :
    Visibility.ofName name = .priv ↔ IsPrivateName name := by
  simp only [Visibility.ofName, IsPrivateName, List.isPrefixOf_iff_prefix,
    List.isSuffixOf_iff_suffix]
  by_cases hp : ['_', '_'] <+: name.toList
  · by_cases hs : ['_', '_'] <:+ name.toList <;> simp [hp, hs]
  · by_cases hu : ['_'] <+: name.toList <;> simp [hp, hu]

namespace World

variable (w : World)

/-! ### Lookup -/

/-- What the namespace of an object has under a key, if anything. -/
inductive HoldsUnder (owner : Value) (key : String) : Option Value → Prop where
  /-- The key is in the namespace. -/
  | present {members a : Value} : w.namespaceOf owner = .ok members →
      w.contains w.evaluator members key = .ok true →
      w.item w.evaluator members (.str key) = .ok a → HoldsUnder owner key (some a)
  /-- The key is not in the namespace. -/
  | absent {members : Value} : w.namespaceOf owner = .ok members →
      w.contains w.evaluator members key = .ok false → HoldsUnder owner key none

/-- What a class itself has under a name, if anything. -/
inductive Keeps (owner : Value) (name : String) : Option Value → Prop where
  /-- There is something under the name as it is. -/
  | literal {a : Value} : w.HoldsUnder owner name (some a) → Keeps owner name (some a)
  /-- There is nothing there, but the name is private: what is under the mangled name counts. -/
  | mangled {key : String} {r : Option Value} : w.HoldsUnder owner name none →
      IsPrivateName name → w.mangled owner name = .ok key → w.HoldsUnder owner key r →
      Keeps owner name r
  /-- There is nothing there, and the name is not private. -/
  | nothing : w.HoldsUnder owner name none → ¬ IsPrivateName name → Keeps owner name none

/-- What the first of the classes that has something under a name has there. -/
inductive FirstKept (name : String) : List Value → Value → Prop where
  /-- The first class has something there. -/
  | here {owner a : Value} {owners : List Value} : w.Keeps owner name (some a) →
      FirstKept name (owner :: owners) a
  /-- The first class has nothing there. -/
  | later {owner a : Value} {owners : List Value} : w.Keeps owner name none →
      FirstKept name owners a → FirstKept name (owner :: owners) a

/-- None of the classes has something under a name. -/
def NoneKept (name : String) (owners : List Value) : Prop :=
  ∀ owner ∈ owners, w.Keeps owner name none

variable {w}
variable {owner a : Value} {owners : List Value} {name : String} {r : Option Value}

/-- Asking a namespace for a key, and for what is there only if the key is in it. -/
theorem holdsUnder_iff {members : Value} {key : String} (hm : w.namespaceOf owner = .ok members) :
    (do
      if ← w.contains w.evaluator members key then
        return some (← w.item w.evaluator members (.str key))
      else return none) = .ok r ↔ w.HoldsUnder owner key r := by
  constructor
  · intro h
    obtain ⟨b, hb, h⟩ := bind_eq_ok_iff.mp h
    cases b with
    | true =>
      obtain ⟨a, ha, h⟩ := bind_eq_ok_iff.mp h
      obtain rfl := pure_eq_ok_iff.mp h
      exact .present hm hb ha
    | false =>
      obtain rfl := pure_eq_ok_iff.mp h
      exact .absent hm hb
  · intro h
    cases h with
    | present hm' hb ha =>
      obtain rfl := answer_unique hm hm'
      rw [hb, ok_bind, if_pos rfl, ha]
      rfl
    | absent hm' hb =>
      obtain rfl := answer_unique hm hm'
      rw [hb]
      rfl

theorem ownDefinition?_eq_ok_iff : w.ownDefinition? owner name = .ok r ↔ w.Keeps owner name r := by
  constructor
  · intro h
    simp only [ownDefinition?] at h
    obtain ⟨members, hm, h⟩ := bind_eq_ok_iff.mp h
    obtain ⟨b, hb, h⟩ := bind_eq_ok_iff.mp h
    cases b with
    | true =>
      obtain ⟨a, ha, h⟩ := bind_eq_ok_iff.mp h
      obtain rfl := pure_eq_ok_iff.mp h
      exact Keeps.literal (.present hm hb ha)
    | false =>
      -- the name as it is has nothing, so that only a private name is looked for again
      have hnone := HoldsUnder.absent hm hb
      by_cases hp : IsPrivateName name
      · simp only [Visibility.ofName_eq_priv_iff.mpr hp, Bool.false_eq_true, if_false, if_true] at h
        obtain ⟨key, hk, h⟩ := bind_eq_ok_iff.mp h
        exact Keeps.mangled hnone hp hk ((holdsUnder_iff hm).mp h)
      · simp only [Visibility.ofName_eq_priv_iff, hp, Bool.false_eq_true, if_false] at h
        obtain rfl := pure_eq_ok_iff.mp h
        exact Keeps.nothing hnone hp
  · intro h
    cases h with
    | literal h =>
      cases h with
      | present hm hb ha =>
        simp only [ownDefinition?, hm, hb, ha, ok_bind, if_true]
        rfl
    | mangled hnone hp hk h =>
      cases hnone with
      | absent hm hb =>
        simp only [ownDefinition?, hm, hb, hk, ok_bind, Bool.false_eq_true, if_false,
          Visibility.ofName_eq_priv_iff.mpr hp, if_true]
        exact (holdsUnder_iff hm).mpr h
    | nothing hnone hp =>
      cases hnone with
      | absent hm hb =>
        simp only [ownDefinition?, hm, hb, ok_bind, Bool.false_eq_true, if_false,
          Visibility.ofName_eq_priv_iff, hp]
        rfl

/-- Looking along a lineage finds what is kept first. -/
theorem definitionAmong?_eq_some_iff :
    w.definitionAmong? name owners = .ok (some a) ↔ w.FirstKept name owners a := by
  induction owners with
  | nil =>
    constructor
    · intro h
      cases h
    · intro h
      cases h
  | cons owner owners ih =>
    constructor
    · intro h
      rw [definitionAmong?] at h
      obtain ⟨r, hr, h⟩ := bind_eq_ok_iff.mp h
      cases r with
      | some b =>
        obtain rfl := Option.some.inj (pure_eq_ok_iff.mp h)
        exact FirstKept.here (ownDefinition?_eq_ok_iff.mp hr)
      | none => exact FirstKept.later (ownDefinition?_eq_ok_iff.mp hr) (ih.mp h)
    · intro h
      cases h with
      | here hk =>
        rw [definitionAmong?, ownDefinition?_eq_ok_iff.mpr hk]
        rfl
      | later hk hf =>
        rw [definitionAmong?, ownDefinition?_eq_ok_iff.mpr hk]
        exact ih.mpr hf

/-- Looking along a lineage finds nothing where nothing is kept. -/
theorem definitionAmong?_eq_none_iff :
    w.definitionAmong? name owners = .ok none ↔ w.NoneKept name owners := by
  induction owners with
  | nil => exact iff_of_true rfl fun owner h => absurd h List.not_mem_nil
  | cons owner owners ih =>
    rw [definitionAmong?, bind_eq_ok_iff, NoneKept, List.forall_mem_cons]
    constructor
    · rintro ⟨r, hr, h⟩
      cases r with
      | some b => cases pure_eq_ok_iff.mp h
      | none => exact ⟨ownDefinition?_eq_ok_iff.mp hr, ih.mp h⟩
    · rintro ⟨hk, h⟩
      exact ⟨none, ownDefinition?_eq_ok_iff.mpr hk, ih.mpr h⟩

/-! ### Methods and what they are -/

variable (w)

/-- The attribute is a static or class-wide wrapper. -/
def IsWrapper (a : Value) : Prop :=
  w.isInstance w.evaluator a [.staticMethod, .classMethod] = .ok true

/-- The attribute is a method: a wrapper, or something that can be called and is no class. -/
def IsMethod (a : Value) : Prop :=
  w.IsWrapper a ∨ w.isClass w.evaluator a = .ok false ∧ w.isCallable a = true

/-- What the attribute answers to the name of the mark for abstract counts as true. -/
def IsAbstract (a : Value) : Prop :=
  ∃ mark, w.read a abstractMark = .ok mark ∧ w.truth w.evaluator mark = .ok true

/-- What the object answers to the name of the mark for final is the value true. -/
def IsMarkedFinal (v : Value) : Prop := w.read v finalMark = .ok (.bool true)

/-- The attribute is marked as final, or it is a wrapper and the function that it wraps is. -/
def IsFinal (a : Value) : Prop :=
  w.IsMarkedFinal a ∨ w.IsWrapper a ∧ ∃ f, w.read a "__func__" = .ok f ∧ w.IsMarkedFinal f

/-- The attribute has the flag. -/
def HasFlag (a : Value) : Flag → Prop
  | .static => w.IsWrapper a
  | .abstract => w.IsAbstract a
  | .final => w.IsFinal a

/-- The flags of the traits are those that the attribute has. -/
def Describes (a : Value) (t : Traits) : Prop := ∀ f, t.flag f = true ↔ w.HasFlag a f

variable {w}

theorem isAbstract_iff {b : Bool} (h : w.isAbstract a = .ok b) : b = true ↔ w.IsAbstract a := by
  obtain ⟨r, hr, h⟩ := bind_eq_ok_iff.mp h
  cases r with
  | some mark =>
    have hm : w.read a abstractMark = .ok mark := Outcome.orMissing_eq_some_iff.mp hr
    constructor
    · rintro rfl
      exact ⟨mark, hm, h⟩
    · rintro ⟨mark', hm', ht⟩
      obtain rfl := answer_unique hm hm'
      exact answer_unique h ht
  | none =>
    obtain ⟨c, hc, -⟩ := Outcome.orMissing_eq_none_iff.mp hr
    obtain rfl := pure_eq_ok_iff.mp h
    refine iff_of_false Bool.false_ne_true ?_
    rintro ⟨mark, hm, -⟩
    cases hc.symm.trans hm

theorem isMarkedFinal_iff {v : Value} {b : Bool} (h : w.isMarkedFinal v = .ok b) :
    b = true ↔ w.IsMarkedFinal v := by
  obtain ⟨r, hr, h⟩ := bind_eq_ok_iff.mp h
  split at h
  · obtain rfl := pure_eq_ok_iff.mp h
    exact iff_of_true rfl (Outcome.orMissing_eq_some_iff.mp hr)
  · next hne =>
    obtain rfl := pure_eq_ok_iff.mp h
    refine iff_of_false Bool.false_ne_true fun hf => ?_
    have hs := Outcome.orMissing_eq_some_iff.mpr hf
    exact hne (answer_unique hr hs)

theorem isEitherFinal_iff {f : Value} {b : Bool} (h : w.isEitherFinal a f = .ok b) :
    b = true ↔ w.IsMarkedFinal a ∨ w.IsMarkedFinal f := by
  obtain ⟨x, hx, h⟩ := bind_eq_ok_iff.mp h
  have ha := isMarkedFinal_iff hx
  cases x with
  | true =>
    obtain rfl := pure_eq_ok_iff.mp h
    exact ⟨fun _ => Or.inl (ha.mp rfl), fun _ => rfl⟩
  | false =>
    have hf := isMarkedFinal_iff (v := f) h
    rw [hf]
    refine ⟨Or.inr, ?_⟩
    rintro (hm | hm)
    · cases ha.mpr hm
    · exact hm

variable (w) in
/-- How an attribute comes to the traits of a method, or to none. -/
inductive Examined (a : Value) : Option Traits → Prop where
  /-- A wrapper is a static method; the mark for final also counts on what it wraps. -/
  | wrapper {f : Value} {b c : Bool} : w.IsWrapper a → w.read a "__func__" = .ok f →
      w.isAbstract a = .ok b → w.isEitherFinal a f = .ok c → Examined a (some ⟨true, b, c⟩)
  /-- A class is no method. -/
  | ofClass : ¬ w.IsWrapper a → w.isClass w.evaluator a = .ok true → Examined a none
  /-- Anything else that can be called is a method. -/
  | callable {b c : Bool} : ¬ w.IsWrapper a → w.isClass w.evaluator a = .ok false →
      w.isCallable a = true → w.isAbstract a = .ok b → w.isMarkedFinal a = .ok c →
      Examined a (some ⟨false, b, c⟩)
  /-- What cannot be called is no method. -/
  | other : ¬ w.IsWrapper a → w.isCallable a = false → Examined a none

theorem examined_of_traits? {r : Option Traits} (h : w.traits? a = .ok r) : w.Examined a r := by
  obtain ⟨isWrapper, hw, h⟩ := bind_eq_ok_iff.mp h
  cases isWrapper with
  | true =>
    obtain ⟨f, hf, h⟩ := bind_eq_ok_iff.mp h
    obtain ⟨b, hb, h⟩ := bind_eq_ok_iff.mp h
    obtain ⟨c, hc, h⟩ := bind_eq_ok_iff.mp h
    obtain rfl := pure_eq_ok_iff.mp h
    exact .wrapper hw hf hb hc
  | false =>
    have hnot : ¬ w.IsWrapper a := fun hw' => Bool.false_ne_true (answer_unique hw hw')
    obtain ⟨isClass, hk, h⟩ := bind_eq_ok_iff.mp h
    cases isClass with
    | true =>
      obtain rfl := pure_eq_ok_iff.mp h
      exact .ofClass hnot hk
    | false =>
      by_cases hcall : w.isCallable a = true
      · simp only [Bool.false_eq_true, if_false, hcall, if_true] at h
        obtain ⟨b, hb, h⟩ := bind_eq_ok_iff.mp h
        obtain ⟨c, hc, h⟩ := bind_eq_ok_iff.mp h
        obtain rfl := pure_eq_ok_iff.mp h
        exact .callable hnot hk hcall hb hc
      · simp only [Bool.false_eq_true, if_false, hcall] at h
        obtain rfl := pure_eq_ok_iff.mp h
        exact .other hnot (Bool.not_eq_true _ ▸ hcall)

/-- An attribute with traits is a method. -/
theorem isMethod_of_traits? {t : Traits} (h : w.traits? a = .ok (some t)) : w.IsMethod a := by
  cases examined_of_traits? h with
  | wrapper hw _ _ _ => exact Or.inl hw
  | callable _ hk hcall _ _ => exact Or.inr ⟨hk, hcall⟩

/-- An attribute has the flags of its traits. -/
theorem describes_of_traits? {t : Traits} (h : w.traits? a = .ok (some t)) : w.Describes a t := by
  intro f
  cases examined_of_traits? h with
  | wrapper hw hf hb hc =>
    cases f with
    | static => exact iff_of_true rfl hw
    | abstract => exact isAbstract_iff hb
    | final =>
      -- what the wrapper wraps is what was read, as reading it again gives the same
      refine (isEitherFinal_iff hc).trans (or_congr_right ⟨fun hm => ⟨hw, _, hf, hm⟩, ?_⟩)
      rintro ⟨-, g, hg, hm⟩
      obtain rfl := answer_unique hf hg
      exact hm
  | callable hnot _ _ hb hc =>
    cases f with
    | static => exact iff_of_false Bool.false_ne_true hnot
    | abstract => exact isAbstract_iff hb
    | final => exact (isMarkedFinal_iff hc).trans (or_iff_left fun hm => hnot hm.1).symm

/-- What has no traits is no method. -/
theorem not_isMethod_of_traits? (h : w.traits? a = .ok none) : ¬ w.IsMethod a := by
  rintro (hw | ⟨hk, hcall⟩)
  · cases examined_of_traits? h with
    | ofClass hnot _ => exact hnot hw
    | other hnot _ => exact hnot hw
  · cases examined_of_traits? h with
    | ofClass _ hk' => cases hk.symm.trans hk'
    | other _ hcall' => exact Bool.false_ne_true (hcall'.symm.trans hcall)

end World

end Conformance
