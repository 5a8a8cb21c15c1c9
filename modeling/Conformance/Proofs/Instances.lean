import Conformance.Proofs.Totality

/-!
# Objects and their classes

In a world as it arises every class is an object of the class of classes (`World.Arises.isA_type`),
and so it stands for itself. An object stands for its class too, if the class is derived from none
of those that decide otherwise (`World.IsTruthful.resolve_eq_class`): an object of a class derived
from a class of scalars stands for nothing. So an object and its class get the same answer from a
predicate, unless the object is a scalar, as in the world `World.counting`.
-/

namespace Conformance

namespace World

variable {w w' : World} {c d m r : ClassRef} {ms : List ClassRef} {id : String} {o : ClassObject}

/-! ### Metaclasses -/

/-- Of two metaclasses the one that is derived from the other is taken. -/
theorem of_moreDerived (h : w.moreDerived c d = .ok r) :
    r = c ∧ d ∈ w.lineage c ∨ r = d ∧ c ∈ w.lineage d := by
  rw [moreDerived] at h
  split_ifs at h with hc hd
  · exact Or.inl ⟨(Except.ok.inj h).symm, List.contains_iff_mem.mp hc⟩
  · exact Or.inr ⟨(Except.ok.inj h).symm, List.contains_iff_mem.mp hd⟩

theorem IsLinear.mem_lineage_of_moreDerived (hw : w.IsLinear) (h : w.moreDerived c d = .ok r)
    (hm : m ∈ w.lineage c ∨ m ∈ w.lineage d) : m ∈ w.lineage r := by
  rcases of_moreDerived h with ⟨rfl, hd⟩ | ⟨rfl, hc⟩
  · exact hm.elim (fun hm => hm) (hw.mem_lineage_trans hd)
  · exact hm.elim (hw.mem_lineage_trans hc) fun hm => hm

/-- The metaclass that is settled on is derived from all that each of the metaclasses is derived
from. -/
theorem IsLinear.mem_lineage_of_foldlM (hw : w.IsLinear) (h : ms.foldlM w.moreDerived c = .ok r)
    (hm : m ∈ w.lineage c ∨ ∃ d ∈ ms, m ∈ w.lineage d) : m ∈ w.lineage r := by
  induction ms generalizing c with
  | nil =>
    obtain rfl := pure_eq_ok_iff.mp h
    exact hm.resolve_right (by simp)
  | cons d ms ih =>
    obtain ⟨e, he, h⟩ := bind_eq_ok_iff.mp h
    refine ih h ?_
    rcases hm with hm | ⟨d', hd', hm⟩
    · exact Or.inl (hw.mem_lineage_of_moreDerived he (Or.inl hm))
    · rcases List.mem_cons.mp hd' with rfl | hd'
      · exact Or.inl (hw.mem_lineage_of_moreDerived he (Or.inr hm))
      · exact Or.inr ⟨d', hd', hm⟩

/-- Classes that are there keep their ancestors. -/
theorem IsPartOf.mem_lineage (h : w.IsPartOf w') (hd : d ∈ w.lineage c) : d ∈ w'.lineage c := by
  have hknows : w.Knows c := by
    cases c with
    | builtin b => trivial
    | declared id =>
      cases ho : w.class? id with
      | some o => exact ⟨o, ho⟩
      | none =>
        rw [lineage, ho] at hd
        cases hd
  rw [h.lineage_eq hknows]
  exact hd

variable (w) in
/-- The metaclasses of all classes are derived from the class of classes. -/
def HasMetaclasses : Prop := ∀ id o, w.class? id = some o → .builtin .type ∈ w.lineage o.metaclass

theorem HasMetaclasses.mem_lineage (h : w.HasMetaclasses) (c : ClassRef) :
    .builtin .type ∈ w.lineage (w.metaclass c) := by
  cases c with
  | builtin b => exact List.mem_cons_self
  | declared id =>
    rw [metaclass]
    cases ho : w.class? id with
    | none => exact List.mem_cons_self
    | some o => exact h id o ho

/-- Declaring a class preserves that metaclasses are derived from the class of classes. -/
theorem HasMetaclasses.declare (h : w.HasMetaclasses) (hw : w.IsLinear) {d : Declaration}
    (hd : w.declare d = .ok w') : w'.HasMetaclasses := by
  obtain ⟨o, ho, -, -, -, hm⟩ := exists_class_of_declare hd
  have hpart := isPartOf_of_classes ho
  -- there is at least one base, and the metaclass is derived from that of the base
  have hnew : .builtin .type ∈ w.lineage o.metaclass := by
    obtain ⟨b, bs, hb⟩ : ∃ b bs, basesOf d = b :: bs := by
      rw [basesOf]
      split
      · exact ⟨_, _, rfl⟩
      · next hne => exact List.exists_cons_of_ne_nil (by simpa using hne)
    rw [settleMetaclass, hb] at hm
    exact hw.mem_lineage_of_foldlM hm (Or.inr ⟨_, List.mem_cons_self, h.mem_lineage b⟩)
  intro id o' ho'
  rw [class?_of_classes ho] at ho'
  rcases Option.or_eq_some_iff.mp ho' with hold | ⟨-, ho'⟩
  · exact hpart.mem_lineage (h id o' hold)
  · split_ifs at ho'
    obtain rfl := Option.some.inj ho'
    exact hpart.mem_lineage hnew

theorem Arises.hasMetaclasses (h : w.Arises) : w.HasMetaclasses := by
  induction h with
  | @empty w hw =>
    intro id o ho
    rw [class?, hw] at ho
    cases ho
  | declare hw _ _ hd ih => exact ih.declare hw.isLinear hd
  | @change w w' _ hw ih =>
    have hclass (id : String) : w'.class? id = w.class? id := by rw [class?, class?, hw]
    have hpart : w.IsPartOf w' := fun id o ho => by rw [hclass, ho]
    intro id o ho
    exact hpart.mem_lineage (ih id o (hclass id ▸ ho))

/-- In a world as it arises, every class is an object of the class of classes. -/
theorem Arises.isA_type (h : w.Arises) (c : ClassRef) : w.isA (.cls c) .type = true :=
  List.contains_iff_mem.mpr (h.hasMetaclasses.mem_lineage c)

/-- In a world as it arises, every class stands for itself. -/
theorem Arises.resolve_cls (h : w.Arises) (c : ClassRef) :
    w.resolve (.cls c) = .ok (some (.cls c)) := by
  rw [resolve, isClass, isInstance, if_pos (h.isA_type c)]
  rfl

/-! ### What objects stand for -/

variable {x y : Value}

/-- An object whose class is derived from none of the classes that decide otherwise stands for its
class. -/
theorem IsTruthful.resolve_eq_class (h : w.IsTruthful x Builtin.decisive)
    (hno : ∀ b ∈ Builtin.decisive, w.isA x b = false) :
    w.resolve x = .ok (some (.cls (w.classOf x))) := by
  have hscalars : Builtin.scalars.any (w.isA x) = false := by
    rw [List.any_eq_false]
    intro b hb
    rw [hno b (List.mem_cons_of_mem _ (List.mem_cons_of_mem _ hb))]
    exact Bool.false_ne_true
  rw [h.resolve (hno .str (by decide)), hno .type (by decide), hscalars]
  rfl

/-- An object that is neither a class nor a text stands for nothing if and only if its class is a
class of scalars or derived from one. -/
theorem IsTruthful.resolve_eq_none_iff (h : w.IsTruthful x Builtin.decisive)
    (ht : w.isA x .type = false) (hs : w.isA x .str = false) :
    w.resolve x = .ok none ↔ ∃ b ∈ Builtin.scalars, w.isA x b = true := by
  rw [h.resolve hs, ht, ← List.any_eq_true]
  cases Builtin.scalars.any (w.isA x) <;> simp

end World

namespace Predicate

variable {w : World} {s : Spec} {x y : Value}

/-- Of what stands for the same, a predicate answers the same. -/
theorem holds_eq_of_resolve_eq (h : w.resolve x = w.resolve y) :
    (ofSpec w s none).holds x = (ofSpec w s none).holds y := by
  have hc : (ofSpec w s none).resolver.resolve x = (ofSpec w s none).resolver.resolve y :=
    congrArg Outcome.orFault h
  rw [holds, holds, findMethod, findMethod, hc]

/-- What stands for the same is explained in the same way. -/
theorem explain_eq_of_resolve_eq (h : w.resolve x = w.resolve y) :
    (ofSpec w s none).explain w x = (ofSpec w s none).explain w y := by
  have hc : (ofSpec w s none).resolver.resolve x = (ofSpec w s none).resolver.resolve y :=
    congrArg Outcome.orFault h
  rw [explain, explain, hc]

/-- The object stands for its class, and each predicate answers and explains the same of both. -/
def AnswersAsClass (w : World) (x : Value) : Prop :=
  w.resolve x = .ok (some (.cls (w.classOf x))) ∧
    ∀ s, (ofSpec w s none).holds x = (ofSpec w s none).holds (.cls (w.classOf x)) ∧
      (ofSpec w s none).explain w x = (ofSpec w s none).explain w (.cls (w.classOf x))

theorem answersAsClass_of_resolve (hw : w.Arises)
    (h : w.resolve x = .ok (some (.cls (w.classOf x)))) : AnswersAsClass w x := by
  have hsame : w.resolve x = w.resolve (.cls (w.classOf x)) := h.trans (hw.resolve_cls _).symm
  exact ⟨h, fun s => ⟨holds_eq_of_resolve_eq hsame, explain_eq_of_resolve_eq hsame⟩⟩

/-- **An object and its class get the same answer**, if the class is derived neither from the class
of classes nor from that of texts nor from one of scalars, and the object does not pass itself off
as an object of one of these. Of the objects that are neither classes nor texts, those stand for
nothing whose class is a class of scalars or derived from one, and no others; no predicate holds of
them. Objects of built-in classes do not pass themselves off as something else, nor do those whose
class leaves it to the built-in classes to answer to names and to the name of the class. -/
theorem object_answers_as_class (w : World) (hw : w.Arises) :
    (∀ x, w.IsTruthful x Builtin.decisive → (∀ b ∈ Builtin.decisive, w.isA x b = false) →
      AnswersAsClass w x) ∧
    (∀ x, w.IsTruthful x Builtin.decisive → w.isA x .type = false → w.isA x .str = false →
      (w.resolve x = .ok none ↔ ∃ b ∈ Builtin.scalars, w.isA x b = true)) ∧
    (∀ x, w.resolve x = .ok none → ∀ s, (ofSpec w s none).holds x = .ok false ∧
      (ofSpec w s none).explain w x = .ok unresolvedText) ∧
    (∀ x b, w.classOf x = .builtin b → w.IsTruthful x Builtin.decisive) ∧
    ∀ x b, w.special x "__getattribute__" = .builtin b →
      w.classAttribute? x "__class__" =
        some (.member (.builtin .object) "__class__" (.computed .type)) →
      w.IsTruthful x Builtin.decisive := by
  refine ⟨fun x h hno => answersAsClass_of_resolve hw (h.resolve_eq_class hno),
    fun x h ht hs => h.resolve_eq_none_iff ht hs, fun x h s => ?_,
    fun x b h => (World.isHonest_of_builtin h).isTruthful _,
    fun x b hfirst hclass => (World.isHonest_of_plain hfirst hclass).isTruthful _⟩
  have he : Explained w s x false unresolvedText := .unresolved h
  exact ⟨he.holds, explain_eq_ok_iff.mpr ⟨false, he⟩⟩

end Predicate

/-! ### An object that is a scalar -/

/-- The class `K` has a method `a`, and so has the class `N` of integers, from which the class `D`
is derived. -/
def Declaration.counting : List Declaration :=
  [.plain "K" [("a", .function none none none)],
   { Declaration.plain "N" [("a", .function none none none)] with bases := [.builtin .int] },
   { Declaration.plain "D" [] with bases := [.declared "N"] }]

/-- The world with these classes. -/
def World.counting : World := (Declaration.counting.foldlM World.declare {}).toOption.getD {}

/-- The classes have been declared one after the other. -/
theorem World.arises_counting : World.counting.Arises := by
  let first : World := ((Declaration.counting.take 1).foldlM World.declare {}).toOption.getD {}
  let second : World := ((Declaration.counting.take 2).foldlM World.declare {}).toOption.getD {}
  have hfirst : first.Arises :=
    .declare (w := {}) (d := Declaration.counting[0]) (.empty rfl) rfl
      (fun _ hb => absurd hb List.not_mem_nil) rfl
  have hsecond : second.Arises := by
    refine .declare (w := first) (d := Declaration.counting[1]) hfirst rfl (fun b hb => ?_) rfl
    obtain rfl := List.mem_singleton.mp hb
    trivial
  refine .declare (w := second) (d := Declaration.counting[2]) hsecond rfl (fun b hb => ?_) rfl
  obtain rfl := List.mem_singleton.mp hb
  exact ⟨_, rfl⟩

namespace Predicate

/-- An object of the class `D`, with seven for its value. -/
def countingSubject : Value := .instance (.declared "D") (some (.int 7))

/-- The object stands for nothing, while a predicate holds of its class. And an object that passes
itself off as a class stands for itself. -/
theorem not_answersAsClass_counting :
    Declaration.counting.foldlM World.declare {} = .ok World.counting ∧
      World.counting.resolve countingSubject = .ok none ∧
      (ofSpec World.counting .plain none).holds countingSubject = .ok false ∧
      (ofSpec World.counting .plain none).holds (.cls (.declared "D")) = .ok true ∧
      World.rootless.resolve (.instance (.declared "P") none) =
        .ok (some (.instance (.declared "P") none)) ∧
      ¬ ∀ (w : World) (id : String) (x : Value), w.Arises → w.classOf x = .declared id →
        w.isA x .str = false → w.isA x .type = false → AnswersAsClass w x := by
  refine ⟨rfl, rfl, rfl, rfl, rfl, fun h => ?_⟩
  have hno := (h World.counting "D" countingSubject World.arises_counting rfl rfl rfl).1
  cases hno

/-- An object of the class `K` answers as its class does, and one of the class `D` stands for
nothing. -/
theorem object_answers_as_class_counting :
    (ofSpec World.counting .plain none).holds (.instance (.declared "K") none) = .ok true ∧
      AnswersAsClass World.counting (.instance (.declared "K") none) ∧
      World.counting.resolve countingSubject = .ok none ∧
      ∀ s, (ofSpec World.counting s none).explain World.counting countingSubject =
        .ok unresolvedText := by
  obtain ⟨hclass, hnone, hexplain, -, hplain⟩ :=
    object_answers_as_class World.counting World.arises_counting
  have hk := hplain (.instance (.declared "K") none) .object rfl rfl
  have hd := hplain countingSubject .int rfl rfl
  have hresolve : World.counting.resolve countingSubject = .ok none :=
    (hnone _ hd rfl rfl).mpr ⟨.int, by decide, rfl⟩
  exact ⟨rfl, hclass _ hk (by decide), hresolve, fun s => (hexplain _ hresolve s).2⟩

end Predicate

end Conformance
