import Conformance.Proofs.Descriptors
import Mathlib.Data.Nat.Bitwise

/-!
# Refinement of specifications

A specification refines another one of the same name if it requires of each flag what the other one
requires of it, and admits no visibility that the other one does not admit (`Spec.Refines`). That is
so if and only if the other one accepts all methods that it accepts (`Spec.refines_iff_forall`): for
each way in which it may fail to refine the other one there is a method that tells them apart, as a
flag of which nothing is required may come out either way (`Spec.exists_accepts`).

Whether the visibility of a method is admitted is a test on numbers: the bits of the method and
those for access have one in common (`accessMeets_some`).
-/

namespace Conformance

/-- All members of the first set are members of the second one. -/
def Modifiers.IsSubset (ms ns : Modifiers) : Prop :=
  ∀ m, ms.contains m = true → ns.contains m = true

theorem Visibility.modifier_injective {v u : Visibility} (h : v.modifier = u.modifier) : v = u := by
  cases v <;> cases u <;> first | rfl | cases h

/-! ### Masks -/

/-- A set has one of the members of another one if and only if the two numbers have a bit in common.
-/
theorem Modifiers.and_ofList_ne_zero_iff {ms : Modifiers} {ks : List Modifier} :
    ms.bits &&& (ofList ks).bits ≠ 0 ↔ ∃ k ∈ ks, ms.contains k = true := by
  induction ks with
  | nil => simp [ofList]
  | cons k ks ih =>
    have hcons : (ofList (k :: ks)).bits = k.mask ||| (ofList ks).bits := rfl
    have hmask : ms.bits &&& k.mask ≠ 0 ↔ ms.contains k = true := by
      rw [Modifier.mask, Nat.one_shiftLeft, contains, Nat.and_two_pow]
      cases ms.bits.testBit k.index <;> simp
    rw [hcons, Nat.and_or_distrib_left, ne_eq, Nat.or_eq_zero_iff, not_and_or, ← ne_eq, ← ne_eq,
      hmask, ih, List.exists_mem_cons_iff]

/-- Restricted access is met if the modifiers have a bit in common with those that are admitted. -/
theorem accessMeets_some (a : Access) (ms : Modifiers) :
    accessMeets (some a) ms = decide (ms.bits &&& a.bits.bits ≠ 0) := by
  rw [Bool.eq_iff_iff, decide_eq_true_iff, Access.bits, Modifiers.and_ofList_ne_zero_iff]
  simp [accessMeets, Visibility.mem_all]

/-! ### What constraints leave open -/

namespace Constraints

variable {k l : Constraints}

variable (k) in
/-- What is required of a flag, if anything. -/
def required : Flag → Option Bool
  | .static => k.isStatic
  | .abstract => k.isAbstract
  | .final => k.isFinal

variable (k) in
/-- The visibility is admitted. -/
def admits (v : Visibility) : Bool := k.access.all fun a => a.allows v

variable (k) in
/-- The visibilities that are admitted, as a set of modifiers. -/
def accessBits : Modifiers := (k.access.map Access.bits).getD .accessMask

theorem requires_flag_iff {f : Flag} {b : Bool} :
    k.Requires (.flag f b) ↔ k.required f = some b := by
  cases f <;> exact Iff.rfl

theorem admits_iff {v : Visibility} :
    k.admits v = true ↔ ∀ a, k.Requires (.access a) → a.allows v = true := by
  rw [admits, Option.all_eq_true]
  exact Iff.rfl

theorem contains_accessBits_iff {m : Modifier} :
    k.accessBits.contains m = true ↔ ∃ v : Visibility, k.admits v = true ∧ v.modifier = m := by
  simp only [accessBits, admits]
  cases k.access with
  | none => simp [Modifiers.accessMask, Modifiers.contains_ofList, Visibility.mem_all]
  | some a => simp [Access.bits, Modifiers.contains_ofList, Visibility.mem_all]

/-- The bit of a visibility is among the bits for access if the visibility is admitted. -/
theorem contains_accessBits_modifier {v : Visibility} :
    k.accessBits.contains v.modifier = k.admits v := by
  rw [Bool.eq_iff_iff, contains_accessBits_iff]
  constructor
  · rintro ⟨u, hu, h⟩
    exact Visibility.modifier_injective h ▸ hu
  · intro hv
    exact ⟨v, hv, rfl⟩

theorem isSubset_accessBits_iff :
    k.accessBits.IsSubset l.accessBits ↔ ∀ v, k.admits v = true → l.admits v = true := by
  constructor
  · intro h v hv
    rw [← contains_accessBits_modifier] at hv ⊢
    exact h _ hv
  · intro h m hm
    obtain ⟨v, hv, hmod⟩ := contains_accessBits_iff.mp hm
    exact contains_accessBits_iff.mpr ⟨v, h v hv, hmod⟩

theorem accessBits_of_access {a : Access} (h : k.access = some a) : k.accessBits = a.bits := by
  rw [accessBits, h]
  rfl

/-- Some visibility is admitted. -/
theorem exists_admits (k : Constraints) : ∃ v, k.admits v = true := by
  simp only [admits]
  rcases k.access with _ | v | v
  · exact ⟨.pub, rfl⟩
  · exact ⟨v, by simp [Access.allows]⟩
  · cases v with
    | pub => exact ⟨.prot, rfl⟩
    | prot => exact ⟨.pub, rfl⟩
    | priv => exact ⟨.pub, rfl⟩

/-- Constraints that admit the same visibilities restrict access alike. -/
theorem access_eq_of_admits (h : ∀ v, k.admits v = l.admits v) : k.access = l.access := by
  have htable : ∀ a ∈ none :: Access.all.map some, ∀ b ∈ none :: Access.all.map some,
      (∀ v ∈ Visibility.all, (a.all fun x => x.allows v) = b.all fun x => x.allows v) → a = b := by
    decide
  have hmem (a : Option Access) : a ∈ none :: Access.all.map some := by
    cases a <;> simp [Access.mem_all]
  exact htable _ (hmem _) _ (hmem _) fun v _ => h v

theorem ext_of_required (hr : ∀ f, k.required f = l.required f) (ha : k.access = l.access) :
    k = l := by
  obtain ⟨s, a, b, f⟩ := k
  obtain ⟨s', a', b', f'⟩ := l
  obtain rfl : s = s' := hr .static
  obtain rfl : b = b' := hr .abstract
  obtain rfl : f = f' := hr .final
  obtain rfl : a = a' := ha
  rfl

/-! ### Dropping constraints -/

variable (k) in
/-- The constraints without those of a category. -/
def drop : Category → Constraints
  | .flag .static => { k with isStatic := none }
  | .flag .abstract => { k with isAbstract := none }
  | .flag .final => { k with isFinal := none }
  | .access => { k with access := none }

/-- Without some of them, constraints that can be satisfied still can. -/
theorem conflicting_drop (c : Category) (h : k.conflicting = false) :
    (k.drop c).conflicting = false := by
  rcases c with ⟨_ | _ | _⟩ | _
  · rfl
  · cases hb : k.isAbstract <;> simp [drop, conflicting, Conformance.conflicting, hb]
  · exact h
  · exact h

end Constraints

namespace Spec

variable {s t : Spec} {d : Descriptor} {v : Visibility}

/-- The specification without the constraints of a category. -/
def drop (s : Spec) (c : Category) : Spec where
  toConstraints := s.toConstraints.drop c
  name := s.name
  isIdentifier_name := s.isIdentifier_name
  consistent := Constraints.conflicting_drop c s.consistent

/-- The specification with this constraint on access in the place of its own. -/
def withAccess (s : Spec) (a : Access) : Spec where
  toConstraints := s.toConstraints.add (.access a)
  name := s.name
  isIdentifier_name := s.isIdentifier_name
  consistent := s.consistent

/-! ### What is accepted -/

/-- A specification accepts the methods of its name that have the flags that are required and a
visibility that is admitted. -/
theorem accepts_iff_admits :
    s.accepts d = true ↔ d.name = s.name ∧
      (∀ f b, s.required f = some b → d.flag f = b) ∧ s.admits d.visibility = true := by
  rw [accepts_iff_metBy, Constraints.admits_iff]
  refine and_congr_right fun _ => ⟨fun h => ⟨fun f b hf => ?_, fun a ha => h _ ha⟩, ?_⟩
  · rw [← d.flag_traits]
    exact h _ (Constraints.requires_flag_iff.mpr hf)
  · rintro ⟨hflag, haccess⟩ (⟨f, b⟩ | a) hc
    · rw [Clause.MetBy, d.flag_traits]
      exact hflag f b (Constraints.requires_flag_iff.mp hc)
    · exact haccess a hc

/-- A specification accepts a method of every visibility that it admits. Flags of which nothing is
required may come out either way. -/
theorem exists_accepts (s : Spec) (hv : s.admits v = true) (b : Bool) :
    ∃ d : Descriptor, d.visibility = v ∧ (∀ f, d.flag f = (s.required f).getD b) ∧
      s.accepts d = true := by
  let t : Traits := ⟨(s.required .static).getD b, (s.required .abstract).getD b,
    (s.required .final).getD b⟩
  obtain ⟨d, hd⟩ := Descriptor.exists_create (v := v) (t := t) s.name_ne_empty
  have hflag (f : Flag) : d.flag f = (s.required f).getD b := by
    rw [← d.flag_traits, Descriptor.traits_of_create hd]
    cases f <;> rfl
  have hvisibility := Descriptor.visibility_of_create hd
  refine ⟨d, hvisibility, hflag, accepts_iff_admits.mpr ⟨(Descriptor.of_create hd).1, ?_, ?_⟩⟩
  · intro f c hc
    rw [hflag, hc]
    rfl
  · rw [hvisibility]
    exact hv

/-! ### Refinement -/

/-- The first specification requires all that the second one requires: of each flag, the second one
requires nothing or the same, and it admits all visibilities that the first one admits. -/
structure Refines (s t : Spec) : Prop where
  name : s.name = t.name
  required : ∀ f, t.required f = none ∨ t.required f = s.required f
  access : s.accessBits.IsSubset t.accessBits

/-- What a specification accepts is accepted by all that it refines. -/
theorem Refines.accepts (h : s.Refines t) (hs : s.accepts d = true) : t.accepts d = true := by
  obtain ⟨hname, hflag, haccess⟩ := accepts_iff_admits.mp hs
  refine accepts_iff_admits.mpr ⟨hname.trans h.name, fun f b hb => ?_,
    Constraints.isSubset_accessBits_iff.mp h.access _ haccess⟩
  rcases h.required f with hnone | hsame
  · cases hnone.symm.trans hb
  · exact hflag f b (hsame ▸ hb)

/-- A specification refines those that accept all that it accepts. -/
theorem refines_of_forall_accepts (h : ∀ d, s.accepts d = true → t.accepts d = true) :
    s.Refines t := by
  have hmeets (b : Bool) {v : Visibility} (hv : s.admits v = true) :
      s.name = t.name ∧ (∀ f c, t.required f = some c → (s.required f).getD b = c) ∧
        t.admits v = true := by
    obtain ⟨d, rfl, hflag, hs⟩ := s.exists_accepts hv b
    obtain ⟨hname, hmeets, hadmits⟩ := accepts_iff_admits.mp (h d hs)
    refine ⟨(accepts_iff_admits.mp hs).1.symm.trans hname, fun f c hc => ?_, hadmits⟩
    rw [← hflag, hmeets f c hc]
  obtain ⟨v, hv⟩ := s.exists_admits
  refine ⟨(hmeets true hv).1, fun f => ?_,
    Constraints.isSubset_accessBits_iff.mpr fun v hv => (hmeets true hv).2.2⟩
  cases hf : t.required f with
  | none => exact Or.inl rfl
  | some c =>
    -- of a flag that is left open, the opposite of what is required may come out
    have hc := (hmeets (!c) hv).2.1 f c hf
    cases hs : s.required f with
    | none => simp [hs] at hc
    | some b => simpa [hs] using hc.symm

theorem refines_iff_forall : s.Refines t ↔ ∀ d, s.accepts d = true → t.accepts d = true :=
  ⟨fun h _ hs => h.accepts hs, refines_of_forall_accepts⟩

/-- Specifications that refine each other are the same. -/
theorem Refines.antisymm (h : s.Refines t) (h' : t.Refines s) : s = t := by
  have hrequired (f : Flag) : s.required f = t.required f := by
    rcases h.required f with ht | ht
    · rcases h'.required f with hs | hs
      · rw [hs, ht]
      · exact hs
    · exact ht.symm
  have hadmits (v : Visibility) : s.admits v = t.admits v :=
    Bool.eq_iff_iff.mpr ⟨Constraints.isSubset_accessBits_iff.mp h.access v,
      Constraints.isSubset_accessBits_iff.mp h'.access v⟩
  have hconstraints : s.toConstraints = t.toConstraints :=
    Constraints.ext_of_required hrequired (Constraints.access_eq_of_admits hadmits)
  obtain ⟨k, name, _, _⟩ := s
  obtain ⟨l, name', _, _⟩ := t
  obtain rfl : k = l := hconstraints
  obtain rfl : name = name' := h.name
  rfl

theorem refines_drop (s : Spec) (c : Category) : s.Refines (s.drop c) where
  name := rfl
  required f := by
    rcases c with ⟨_ | _ | _⟩ | _ <;> cases f <;> first | exact Or.inl rfl | exact Or.inr rfl
  access m hm := by
    rw [Constraints.contains_accessBits_iff] at hm ⊢
    obtain ⟨v, hv, hmod⟩ := hm
    refine ⟨v, ?_, hmod⟩
    rcases c with ⟨_ | _ | _⟩ | _
    · exact hv
    · exact hv
    · exact hv
    · rfl

theorem refines_withAccess {a b : Access} (ha : s.access = some a) (h : a.bits.IsSubset b.bits) :
    s.Refines (s.withAccess b) where
  name := rfl
  required f := by cases f <;> exact Or.inr rfl
  access := by
    rw [Constraints.accessBits_of_access ha]
    exact h

/-- **A specification refines another one if and only if the other one accepts all methods that it
accepts.** Each specification accepts some method, dropping a constraint or widening the one on
access loses none, and specifications that accept the same methods are the same. -/
theorem refines_iff_accepts_subset (s t : Spec) :
    (s.Refines t ↔ ∀ d : Descriptor, s.accepts d = true → t.accepts d = true) ∧
    (∃ d : Descriptor, s.accepts d = true) ∧
    (∀ (c : Category) (d : Descriptor), s.accepts d = true → (s.drop c).accepts d = true) ∧
    (∀ a b : Access, s.access = some a → a.bits.IsSubset b.bits →
      ∀ d : Descriptor, s.accepts d = true → (s.withAccess b).accepts d = true) ∧
    ((∀ d : Descriptor, s.accepts d = t.accepts d) ↔ s = t) := by
  refine ⟨refines_iff_forall, ?_, fun c d => (s.refines_drop c).accepts,
    fun a b ha h d => (refines_withAccess ha h).accepts, fun h => ?_, ?_⟩
  · obtain ⟨v, hv⟩ := s.exists_admits
    obtain ⟨d, -, -, hd⟩ := s.exists_accepts hv true
    exact ⟨d, hd⟩
  · exact Refines.antisymm (refines_iff_forall.mpr fun d hd => h d ▸ hd)
      (refines_iff_forall.mpr fun d hd => (h d).symm ▸ hd)
  · rintro rfl d
    rfl

end Spec

end Conformance
