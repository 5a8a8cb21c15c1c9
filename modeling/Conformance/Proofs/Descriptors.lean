import Conformance.Descriptor
import Conformance.Proofs.Grammar

/-!
# What a descriptor says of a method

The modifiers of a method are kept as the bits of a number. What is put in is what is read out
again (`Descriptor.contains_modifiersOf_iff`), the visibility among it
(`Descriptor.visibilities_modifiersOf`), so that a method with a name always has a descriptor. A
specification accepts it if and only if the method meets every clause that the specification
requires (`Spec.accepts_iff`), where what a clause says is `Clause.MetBy`, and not a matter of bits.
-/

namespace Conformance

/-- A method with these traits has the flag. -/
def Traits.flag (t : Traits) : Flag → Bool
  | .static => t.isStatic
  | .abstract => t.isAbstract
  | .final => t.isFinal

/-- A method with this visibility and these traits is as the clause says. -/
def Clause.MetBy (v : Visibility) (t : Traits) : Clause → Prop
  | .flag f b => t.flag f = b
  | .access a => a.allows v = true

/-- The modifier that a flag amounts to. -/
def Flag.modifier : Flag → Modifier
  | .abstract => .abstract
  | .final => .final
  | .static => .static

/-- What holds of all clauses of the constraints, part by part. -/
theorem Constraints.forall_requires_iff {k : Constraints} {P : Clause → Prop} :
    (∀ c, k.Requires c → P c) ↔
      (∀ b, k.isStatic = some b → P (.flag .static b)) ∧ (∀ a, k.access = some a → P (.access a)) ∧
        (∀ b, k.isAbstract = some b → P (.flag .abstract b)) ∧
        ∀ b, k.isFinal = some b → P (.flag .final b) := by
  constructor
  · intro h
    exact ⟨fun b hb => h (.flag .static b) hb, fun a ha => h (.access a) ha,
      fun b hb => h (.flag .abstract b) hb, fun b hb => h (.flag .final b) hb⟩
  · rintro ⟨hs, ha, hb, hf⟩ c hc
    rcases c with ⟨_ | _ | _, b⟩ | a
    · exact hb b hc
    · exact hf b hc
    · exact hs b hc
    · exact ha a hc

namespace Descriptor

variable {v u : Visibility} {t : Traits}

/-! ### Bits -/

/-- The modifiers are those of the visibility and of the flags that hold. -/
theorem contains_modifiersOf_iff {m : Modifier} :
    (modifiersOf v t).contains m = true ↔
      m = v.modifier ∨ ∃ f : Flag, t.flag f = true ∧ m = f.modifier := by
  rw [modifiersOf, Modifiers.contains_ofList, decide_eq_true_iff, List.mem_cons]
  refine or_congr_right ?_
  simp only [List.mem_append, List.mem_ite_nil_right, List.mem_singleton]
  constructor
  · rintro ((⟨h, rfl⟩ | ⟨h, rfl⟩) | ⟨h, rfl⟩)
    · exact ⟨.static, h, rfl⟩
    · exact ⟨.abstract, h, rfl⟩
    · exact ⟨.final, h, rfl⟩
  · rintro ⟨_ | _ | _, h, rfl⟩
    · exact Or.inl (Or.inr ⟨h, rfl⟩)
    · exact Or.inr ⟨h, rfl⟩
    · exact Or.inl (Or.inl ⟨h, rfl⟩)

/-- The bit of a visibility is set for the visibility of the method alone. -/
theorem contains_visibility : (modifiersOf v t).contains u.modifier = decide (u = v) := by
  rw [Bool.eq_iff_iff, contains_modifiersOf_iff, decide_eq_true_iff]
  constructor
  · rintro (h | ⟨f, -, h⟩)
    · cases u <;> cases v <;> first | rfl | cases h
    · cases u <;> cases f <;> cases h
  · rintro rfl
    exact Or.inl rfl

/-- The bit of a flag is set if the method has the flag. -/
theorem contains_flag {f : Flag} : (modifiersOf v t).contains f.modifier = t.flag f := by
  rw [Bool.eq_iff_iff, contains_modifiersOf_iff]
  constructor
  · rintro (h | ⟨g, hg, h⟩)
    · cases v <;> cases f <;> cases h
    · obtain rfl : f = g := by cases f <;> cases g <;> first | rfl | cases h
      exact hg
  · intro h
    exact Or.inr ⟨f, h, rfl⟩

/-- A method has one visibility. -/
theorem visibilities_modifiersOf : (modifiersOf v t).visibilities = [v] := by
  simp only [Modifiers.visibilities, contains_visibility]
  cases v <;> rfl

/-- A method with a name has a descriptor. -/
theorem exists_create {name : String} (hn : name ≠ "") : ∃ d, create name v t = .ok d := by
  have hv : (modifiersOf v t).visibilities.length = 1 :=
    congrArg List.length visibilities_modifiersOf
  exact ⟨⟨name, modifiersOf v t, hn, hv⟩, by rw [create, ofModifiers, dif_pos hn, dif_pos hv]⟩

/-- The descriptor of a method has its name and its modifiers. -/
theorem of_create {name : String} {d : Descriptor} (h : create name v t = .ok d) :
    d.name = name ∧ d.modifiers = modifiersOf v t := by
  rw [create, ofModifiers] at h
  split_ifs at h
  obtain rfl := Except.ok.inj h
  exact ⟨rfl, rfl⟩

end Descriptor

/-! ### Words for modifiers -/

namespace Modifiers

variable {ms ns : Modifiers}

/-- The words are those of the visibility and of the flags. -/
theorem mem_words_iff {x : String} :
    x ∈ ms.words ↔
      x = ms.visibility.keyword ∨ ∃ f : Flag, ms.contains f.modifier = true ∧ x = f.keyword := by
  simp only [words, List.mem_append, List.mem_ite_nil_right, List.mem_singleton]
  constructor
  · rintro (((⟨h, rfl⟩ | ⟨h, rfl⟩) | rfl) | ⟨h, rfl⟩)
    · exact Or.inr ⟨.final, h, rfl⟩
    · exact Or.inr ⟨.abstract, h, rfl⟩
    · exact Or.inl rfl
    · exact Or.inr ⟨.static, h, rfl⟩
  · rintro (rfl | ⟨_ | _ | _, h, rfl⟩)
    · exact Or.inl (Or.inr rfl)
    · exact Or.inl (Or.inl (Or.inr ⟨h, rfl⟩))
    · exact Or.inl (Or.inl (Or.inl ⟨h, rfl⟩))
    · exact Or.inr ⟨h, rfl⟩

theorem keyword_ne_keyword (v : Visibility) (f : Flag) : f.keyword ≠ v.keyword := by
  cases v <;> cases f <;> decide

theorem flag_keyword_mem_words_iff {f : Flag} :
    f.keyword ∈ ms.words ↔ ms.contains f.modifier = true := by
  rw [mem_words_iff]
  constructor
  · rintro (h | ⟨g, hg, h⟩)
    · exact absurd h (keyword_ne_keyword _ _)
    · obtain rfl : f = g := by cases f <;> cases g <;> first | rfl | exact absurd h (by decide)
      exact hg
  · intro h
    exact Or.inr ⟨f, h, rfl⟩

theorem visibility_keyword_mem_words_iff {v : Visibility} :
    v.keyword ∈ ms.words ↔ v = ms.visibility := by
  rw [mem_words_iff]
  constructor
  · rintro (h | ⟨f, -, h⟩)
    · revert h
      cases v <;> cases ms.visibility <;> first | exact fun _ => rfl | exact (absurd · (by decide))
    · exact absurd h.symm (keyword_ne_keyword _ _)
  · rintro rfl
    exact Or.inl rfl

/-- Modifiers with the same words have the same flags. -/
theorem contains_eq_of_words_eq (h : ms.words = ns.words) (f : Flag) :
    ms.contains f.modifier = ns.contains f.modifier := by
  rw [Bool.eq_iff_iff, ← flag_keyword_mem_words_iff, ← flag_keyword_mem_words_iff, h]

/-- Modifiers with the same words have the same visibility. -/
theorem visibility_eq_of_words_eq (h : ms.words = ns.words) : ms.visibility = ns.visibility :=
  visibility_keyword_mem_words_iff.mp (h ▸ visibility_keyword_mem_words_iff.mpr rfl)

/-- Of several words, none is one for modifiers but those that are listed. -/
theorem mem_keywords_of_mem_words {x : String} (h : x ∈ ms.words) :
    x ∈ ["final", "abstract", "static", "public", "protected", "private"] := by
  rcases mem_words_iff.mp h with rfl | ⟨f, -, rfl⟩
  · cases ms.visibility <;> decide
  · cases f <;> decide

/-- One visibility is the only one that is set. -/
theorem contains_visibility_of_length (h : ms.visibilities.length = 1) (v : Visibility) :
    ms.contains v.modifier = decide (v = ms.visibility) := by
  obtain ⟨u, hu⟩ := List.length_eq_one_iff.mp h
  have hmem (v : Visibility) : ms.contains v.modifier = true ↔ v = u := by
    have hv : v ∈ ms.visibilities ↔ ms.contains v.modifier = true := by
      rw [visibilities, List.mem_filter]
      exact and_iff_right v.mem_all
    rw [← hv, hu, List.mem_singleton]
  have hpriv : ms.contains .priv = true ↔ .priv = u := hmem .priv
  have hprot : ms.contains .prot = true ↔ .prot = u := hmem .prot
  have hvisibility : ms.visibility = u := by
    cases u <;> simp [visibility, hpriv, hprot]
  rw [Bool.eq_iff_iff, hmem, hvisibility, decide_eq_true_iff]

end Modifiers

/-! ### Descriptors and what was put in -/

namespace Descriptor

/-- The properties of the method other than its name and visibility. -/
def traits (d : Descriptor) : Traits := ⟨d.has .static, d.has .abstract, d.has .final⟩

theorem flag_traits (d : Descriptor) (f : Flag) : d.traits.flag f = d.flag f := by
  cases f <;> rfl

variable {name : String} {v : Visibility} {t : Traits} {d : Descriptor}

theorem visibility_of_create (h : create name v t = .ok d) : d.visibility = v := by
  have hv : d.modifiers.contains v.modifier = true := by
    rw [(of_create h).2, contains_visibility, decide_eq_true_iff]
  rw [Modifiers.contains_visibility_of_length d.length_visibilities, decide_eq_true_iff] at hv
  exact hv.symm

theorem traits_of_create (h : create name v t = .ok d) : d.traits = t := by
  have hf (f : Flag) : d.has f.modifier = t.flag f := by
    rw [has, (of_create h).2, contains_flag]
  rw [traits, show d.has .static = _ from hf .static, show d.has .abstract = _ from hf .abstract,
    show d.has .final = _ from hf .final]
  rfl

end Descriptor

/-! ### What a specification accepts -/

theorem Spec.name_ne_empty (s : Spec) : s.name ≠ "" := by
  intro h
  refine Text.ne_nil_of_isIdentifier s.isIdentifier_name ?_
  rw [h]
  rfl

theorem flagMeets_iff {required : Option Bool} {actual : Bool} :
    flagMeets required actual = true ↔ ∀ b, required = some b → actual = b := by
  cases required with
  | none => simp [flagMeets]
  | some b => simp [flagMeets]

theorem accessMeets_iff {required : Option Access} {d : Descriptor} :
    accessMeets required d.modifiers = true ↔
      ∀ a, required = some a → a.allows d.visibility = true := by
  cases required with
  | none => simp [accessMeets]
  | some a =>
    simp only [accessMeets, List.any_eq_true, Bool.and_eq_true, Option.some.injEq, forall_eq',
      Modifiers.contains_visibility_of_length d.length_visibilities, decide_eq_true_iff]
    constructor
    · rintro ⟨v, -, ha, rfl⟩
      exact ha
    · intro ha
      exact ⟨d.visibility, d.visibility.mem_all, ha, rfl⟩

/-- A specification accepts the methods of its name that meet every clause that it requires. -/
theorem Spec.accepts_iff_metBy {s : Spec} {d : Descriptor} :
    s.accepts d = true ↔
      d.name = s.name ∧ ∀ c, s.Requires c → c.MetBy d.visibility d.traits := by
  rw [Constraints.forall_requires_iff]
  simp only [accepts, Bool.and_eq_true, beq_iff_eq, flagMeets_iff, accessMeets_iff, Clause.MetBy,
    Traits.flag, Descriptor.traits, and_assoc, @eq_comm _ s.name]

/-- A specification accepts a descriptor of its name if and only if the method meets every clause
that the specification requires. -/
theorem Spec.accepts_iff {s : Spec} {d : Descriptor} {v : Visibility} {t : Traits}
    (h : Descriptor.create s.name v t = .ok d) :
    s.accepts d = true ↔ ∀ c, s.Requires c → c.MetBy v t := by
  rw [accepts_iff_metBy, Descriptor.visibility_of_create h, Descriptor.traits_of_create h]
  exact and_iff_right (Descriptor.of_create h).1

/-- Descriptors of one name and with the same words are accepted alike. -/
theorem Spec.accepts_congr {s : Spec} {d d' : Descriptor} (hn : d.name = d'.name)
    (hw : d.modifiers.words = d'.modifiers.words) : s.accepts d = s.accepts d' := by
  have hflag (f : Flag) : d.has f.modifier = d'.has f.modifier :=
    Modifiers.contains_eq_of_words_eq hw f
  have hvisibility (v : Visibility) :
      d.modifiers.contains v.modifier = d'.modifiers.contains v.modifier := by
    rw [Modifiers.contains_visibility_of_length d.length_visibilities,
      Modifiers.contains_visibility_of_length d'.length_visibilities,
      Modifiers.visibility_eq_of_words_eq hw]
  have haccess : accessMeets s.access d.modifiers = accessMeets s.access d'.modifiers := by
    simp only [accessMeets, hvisibility]
  rw [accepts, accepts, hn, haccess, show d.has .static = d'.has .static from hflag .static,
    show d.has .abstract = d'.has .abstract from hflag .abstract,
    show d.has .final = d'.has .final from hflag .final]

end Conformance
