import Conformance.Proofs.Refinement

/-!
# Opposite requirements

Every clause has an opposite one: the same flag with the other value, or the visibilities that it
does not admit. As a method has exactly one visibility, whatever other bits its modifiers have, it
is as a clause says if and only if it is not as the opposite one says (`Clause.metBy_opposite_iff`).
So a specification that leaves something open accepts the methods that exactly one of its two
opposite variants accepts (`Spec.accepts_iff_xor`), and, where it leaves access open, exactly one of
the variants for a single visibility (`Spec.accepts_iff_existsUnique`).
-/

namespace Conformance

/-- The clause that says the opposite. -/
def Clause.opposite : Clause → Clause
  | .flag f b => .flag f !b
  | .access (.only v) => .access (.allBut v)
  | .access (.allBut v) => .access (.only v)

theorem Clause.category_opposite (c : Clause) : c.opposite.category = c.category := by
  rcases c with _ | _ | _ <;> rfl

/-- A method is as the opposite clause says if and only if it is not as the clause says. -/
theorem Clause.metBy_opposite_iff {c : Clause} {v : Visibility} {t : Traits} :
    c.opposite.MetBy v t ↔ ¬ c.MetBy v t := by
  rcases c with ⟨f, b⟩ | u | u
  · cases b <;> simp [opposite, MetBy]
  · simp [opposite, MetBy, Access.allows]
  · simp [opposite, MetBy, Access.allows]

/-- The flag that cannot be required together with this one. -/
def Flag.rival? : Flag → Option Flag
  | .abstract => some .final
  | .final => some .abstract
  | .static => none

/-! ### Constraints with one more clause -/

namespace Constraints

theorem conflicting_empty : ({} : Constraints).conflicting = false := rfl

variable {k : Constraints} {c : Clause} {f : Flag}

variable (k) in
/-- Nothing of the category is required. -/
def LeavesOpen (c : Category) : Prop := ∀ d, k.Requires d → d.category ≠ c

theorem leavesOpen_access_iff : k.LeavesOpen .access ↔ k.access = none := by
  rw [Option.eq_none_iff_forall_ne_some]
  constructor
  · intro h a ha
    exact h (.access a) ha rfl
  · rintro h (⟨f, b⟩ | a) ha
    · exact fun hc => by cases hc
    · exact absurd ha (h a)

theorem leavesOpen_flag_iff : k.LeavesOpen (.flag f) ↔ k.required f = none := by
  rw [Option.eq_none_iff_forall_ne_some]
  constructor
  · intro h b hb
    exact h (.flag f b) (requires_flag_iff.mpr hb) rfl
  · rintro h (⟨g, b⟩ | a) hg
    · rintro ⟨⟩
      exact h b (requires_flag_iff.mp hg)
    · exact fun hc => by cases hc

/-- A clause of a category that was left open adds itself and takes nothing away. -/
theorem requires_add_iff_of_leavesOpen (h : k.LeavesOpen c.category) {d : Clause} :
    (k.add c).Requires d ↔ d = c ∨ k.Requires d := by
  rw [requires_add_iff]
  exact or_congr_right ⟨And.right, fun hd => ⟨h d hd, hd⟩⟩

/-- A flag that was left open can be required either way if and only if its rival, should it have
one, is left open too. -/
theorem conflicting_add_flag_iff (hk : k.conflicting = false) (hf : k.required f = none) :
    (∀ b, (k.add (.flag f b)).conflicting = false) ↔
      ∀ g, f.rival? = some g → k.required g = none := by
  obtain ⟨s, a, x, y⟩ := k
  cases f with
  | static => simpa [add, Flag.rival?, conflicting] using hk
  | abstract =>
    obtain rfl : x = none := hf
    cases y <;> simp [add, Flag.rival?, conflicting, Conformance.conflicting, required]
  | final =>
    obtain rfl : y = none := hf
    cases x <;> simp [add, Flag.rival?, conflicting, Conformance.conflicting, required]

end Constraints

/-! ### Variants of a specification -/

namespace Spec

variable {s p n : Spec} {c : Clause} {d : Descriptor}

/-- The specification that requires a clause in the place of what it requires of the category, if
there is one. -/
def requiring (s : Spec) (c : Clause) : Except Fault Spec :=
  ofConstraints s.name (s.toConstraints.add c)

theorem exists_requiring_iff : (∃ p, s.requiring c = .ok p) ↔ (s.add c).conflicting = false := by
  rw [requiring, ofConstraints, dif_pos s.isIdentifier_name]
  split <;> simp_all

theorem of_requiring (h : s.requiring c = .ok p) :
    p.name = s.name ∧ p.toConstraints = s.toConstraints.add c := by
  rw [requiring, ofConstraints, dif_pos s.isIdentifier_name] at h
  split at h
  · obtain rfl := Except.ok.inj h
    exact ⟨rfl, rfl⟩
  · cases h

/-- Every constraint on access can be required. -/
theorem requiring_access (s : Spec) (a : Access) :
    s.requiring (.access a) = .ok (s.withAccess a) := by
  have hconsistent : (s.add (.access a)).conflicting = false := s.consistent
  rw [requiring, ofConstraints, dif_pos s.isIdentifier_name, dif_pos hconsistent]
  rfl

/-- With a clause on what was left open, a specification accepts those methods that are as the
clause says. -/
theorem accepts_requiring_iff (hopen : s.LeavesOpen c.category) (h : s.requiring c = .ok p) :
    p.accepts d = true ↔ s.accepts d = true ∧ c.MetBy d.visibility d.traits := by
  obtain ⟨hname, hconstraints⟩ := of_requiring h
  simp only [accepts_iff_metBy, hname, hconstraints,
    Constraints.requires_add_iff_of_leavesOpen hopen, forall_eq_or_imp]
  exact ⟨fun ⟨hn, hc, hs⟩ => ⟨⟨hn, hs⟩, hc⟩, fun ⟨⟨hn, hs⟩, hc⟩ => ⟨hn, hc, hs⟩⟩

/-- A specification accepts what exactly one of two opposite variants accepts. -/
theorem accepts_iff_xor (hopen : s.LeavesOpen c.category) (hp : s.requiring c = .ok p)
    (hn : s.requiring c.opposite = .ok n) :
    s.accepts d = true ↔ Xor (p.accepts d = true) (n.accepts d = true) := by
  have hopen' : s.LeavesOpen c.opposite.category := c.category_opposite.symm ▸ hopen
  rw [accepts_requiring_iff hopen hp, accepts_requiring_iff hopen' hn, Clause.metBy_opposite_iff]
  by_cases hc : c.MetBy d.visibility d.traits <;> simp [Xor, hc]

/-- A specification that leaves access open accepts what the variant for the method's own visibility
accepts, and the variants for the other ones do not. -/
theorem accepts_iff_existsUnique (hs : s.access = none) :
    s.accepts d = true ↔ ∃! v, (s.withAccess (.only v)).accepts d = true := by
  have hvariant (v : Visibility) : (s.withAccess (.only v)).accepts d = true ↔
      s.accepts d = true ∧ d.visibility = v := by
    rw [accepts_requiring_iff (Constraints.leavesOpen_access_iff.mpr hs)
      (s.requiring_access (.only v))]
    simp [Clause.MetBy, Access.allows]
  simp only [hvariant]
  constructor
  · intro h
    exact ⟨d.visibility, ⟨h, rfl⟩, fun v hv => hv.2.symm⟩
  · rintro ⟨v, ⟨h, -⟩, -⟩
    exact h

/-- **Constraints are two-valued.** A specification that leaves access open accepts a method if and
only if exactly one of the variants with a constraint on access and with its negation does, and if
and only if exactly one of the variants for the three visibilities does. So it is with a flag that is
left open, where both variants make a specification: for static always, for abstract and final if
the other one of them is left open. The method may have any name and its modifiers any further
bits. -/
theorem accepts_iff_exactly_one (s : Spec) (d : Descriptor) :
    (s.access = none →
      (∀ v, s.accepts d = true ↔ Xor ((s.withAccess (.only v)).accepts d = true)
        ((s.withAccess (.allBut v)).accepts d = true)) ∧
      (s.accepts d = true ↔ ∃! v, (s.withAccess (.only v)).accepts d = true)) ∧
    ∀ f, s.required f = none →
      (∀ p n, s.requiring (.flag f true) = .ok p → s.requiring (.flag f false) = .ok n →
        (s.accepts d = true ↔ Xor (p.accepts d = true) (n.accepts d = true))) ∧
      ((∀ b, ∃ p, s.requiring (.flag f b) = .ok p) ↔
        ∀ g, f.rival? = some g → s.required g = none) := by
  refine ⟨fun hs => ⟨fun v => ?_, accepts_iff_existsUnique hs⟩, fun f hf => ⟨fun p n hp hn => ?_, ?_⟩⟩
  · exact accepts_iff_xor (c := .access (.only v)) (Constraints.leavesOpen_access_iff.mpr hs)
      (s.requiring_access _) (s.requiring_access _)
  · exact accepts_iff_xor (c := .flag f true) (Constraints.leavesOpen_flag_iff.mpr hf) hp hn
  · simp only [exists_requiring_iff]
    exact Constraints.conflicting_add_flag_iff s.consistent hf

end Spec

/-- A protected static method, whose modifiers have two bits without a meaning besides. -/
def Descriptor.protectedBar : Descriptor :=
  ⟨"bar", .ofInt (2 + 8 + 16 + 256), by decide, by decide⟩

namespace Spec

/-- The specification of a name alone. -/
def plainBar : Spec where
  name := "bar"
  isIdentifier_name := by decide
  consistent := Constraints.conflicting_empty

/-- The method is accepted as a method of any access, and so as one that is not public, but not as a
public one; as a static one, but not as one that is not static. -/
theorem accepts_iff_exactly_one_protectedBar :
    plainBar.access = none ∧ plainBar.required .static = none ∧
    Xor ((plainBar.withAccess (.only .pub)).accepts .protectedBar = true)
      ((plainBar.withAccess (.allBut .pub)).accepts .protectedBar = true) ∧
    ∀ p n, plainBar.requiring (.flag .static true) = .ok p →
      plainBar.requiring (.flag .static false) = .ok n →
      Xor (p.accepts .protectedBar = true) (n.accepts .protectedBar = true) := by
  obtain ⟨haccess, hflag⟩ := accepts_iff_exactly_one plainBar .protectedBar
  have hs : plainBar.accepts .protectedBar = true := by decide
  exact ⟨rfl, rfl, ((haccess rfl).1 .pub).mp hs,
    fun p n hp hn => ((hflag .static rfl).1 p n hp hn).mp hs⟩

end Spec

end Conformance
