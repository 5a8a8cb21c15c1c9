import Conformance.Proofs.Lineages
import Conformance.Proofs.Matching
import Conformance.Proofs.Classes

/-!
# Shadowing

What looking for a method depends on. The first class of a lineage that has something under the name
decides, whatever the classes behind it have, and even if it has no method there. Two classes whose
lineages begin alike, with attributes alike in the place that decides (`World.AreAlike`), have the
same method (`World.findMethodAmong_congr`).

An attribute that is no method by its class (`World.IsNoMethod`) hides the methods behind it, as
long as it answers to the name of its class and does not pass itself off as a wrapper
(`World.IsCandid`). There are classes that do not answer, as the world `World.classless` shows.
-/

namespace Conformance

namespace World

/-! ### Attributes that are alike -/

/-- Two attributes are of the same kind, both can be called or neither, and they have the same
marks, as far as they answer at all. The mark for final is also compared on what wrappers wrap. -/
structure AreAlike (w w' : World) (a a' : Value) : Prop where
  wrapper : w.isInstance w.evaluator a [.staticMethod, .classMethod] =
    w'.isInstance w'.evaluator a' [.staticMethod, .classMethod]
  isClass : w.isClass w.evaluator a = w'.isClass w'.evaluator a'
  callable : w.isCallable a = w'.isCallable a'
  abstract : w.isAbstract a = w'.isAbstract a'
  final : w.isMarkedFinal a = w'.isMarkedFinal a'
  wrapped : w.IsWrapper a →
    (w.read a "__func__").map w.isMarkedFinal = (w'.read a' "__func__").map w'.isMarkedFinal

variable {w w' : World} {a a' c c' f f' k : Value} {name : String}
  {front behind behind' owners : List Value}

theorem AreAlike.isEitherFinal (h : w.AreAlike w' a a')
    (hf : w.isMarkedFinal f = w'.isMarkedFinal f') :
    w.isEitherFinal a f = w'.isEitherFinal a' f' := by
  rw [World.isEitherFinal, World.isEitherFinal, h.final, hf]

/-- Attributes that are alike have the same traits. -/
theorem AreAlike.traits?_eq (h : w.AreAlike w' a a') : w.traits? a = w'.traits? a' := by
  rw [traits?, traits?, ← h.wrapper]
  cases hw : w.isInstance w.evaluator a [.staticMethod, .classMethod] with
  | error x => simp only [error_bind]
  | ok isWrapper =>
    cases isWrapper with
    | false =>
      simp only [ok_bind, Bool.false_eq_true, if_false]
      rw [h.isClass, h.callable, h.abstract, h.final]
    | true =>
      simp only [ok_bind, if_true]
      rcases of_map_eq_map (h.wrapped hw) with ⟨x, hf, hf'⟩ | ⟨f, f', hf, hf', hfinal⟩
      · rw [hf, hf', error_bind, error_bind]
      · rw [hf, hf', ok_bind, ok_bind, h.abstract, h.isEitherFinal hfinal]

/-! ### Looking along a lineage -/

/-- A class that has nothing under the name is passed over. -/
theorem findMethodAmong_cons (h : w.Keeps c name none) (owners : List Value) :
    w.findMethodAmong (c :: owners) name = w.findMethodAmong owners name := by
  rw [findMethodAmong, definitionAmong?, ownDefinition?_eq_ok_iff.mpr h]
  rfl

/-- A class that does not answer what it has under the name is complained of. -/
theorem findMethodAmong_cons_of_complaint {x : Complaint} (h : w.ownDefinition? c name = .error x)
    (owners : List Value) : w.findMethodAmong (c :: owners) name = .error (.complaint x) := by
  rw [findMethodAmong, definitionAmong?, h]
  rfl

/-- A class that has something under the name decides. -/
theorem findMethodAmong_cons_of_keeps (h : w.Keeps c name (some a)) (owners : List Value) :
    w.findMethodAmong (c :: owners) name = w.describe name a (.ofName name) := by
  rw [findMethodAmong, definitionAmong?, ownDefinition?_eq_ok_iff.mpr h]
  rfl

theorem findMethodAmong_append (h : w.NoneKept name front) (owners : List Value) :
    w.findMethodAmong (front ++ owners) name = w.findMethodAmong owners name := by
  induction front with
  | nil => rfl
  | cons c front ih =>
    rw [List.cons_append, findMethodAmong_cons (h c List.mem_cons_self)]
    exact ih fun d hd => h d (List.mem_cons_of_mem c hd)

/-- The classes have nothing under the name in either world. One that does not answer what it has
there complains in both worlds of the same. -/
def PassAlike (w w' : World) (name : String) (front : List Value) : Prop :=
  ∀ c ∈ front, w.ownDefinition? c name = w'.ownDefinition? c name ∧ ∀ a, ¬ w.Keeps c name (some a)

/-- What comes behind the class that decides does not count, nor does anything else in which the
worlds differ. -/
theorem findMethodAmong_congr (hfront : w.PassAlike w' name front)
    (hk : w.Keeps k name (some a)) (hk' : w'.Keeps k name (some a')) (ha : w.AreAlike w' a a') :
    w.findMethodAmong (front ++ k :: behind) name =
      w'.findMethodAmong (front ++ k :: behind') name := by
  -- each class of the common beginning ends both searches alike or is passed over in both
  induction front with
  | nil =>
    rw [List.nil_append, List.nil_append, findMethodAmong_cons_of_keeps hk,
      findMethodAmong_cons_of_keeps hk', describe, describe, ha.traits?_eq]
  | cons c front ih =>
    obtain ⟨hsame, hnot⟩ := hfront c List.mem_cons_self
    rw [List.cons_append, List.cons_append]
    cases hc : w.ownDefinition? c name with
    | error x =>
      rw [findMethodAmong_cons_of_complaint hc, findMethodAmong_cons_of_complaint (hsame ▸ hc)]
    | ok r =>
      cases r with
      | some b => exact absurd (ownDefinition?_eq_ok_iff.mp hc) (hnot b)
      | none =>
        rw [findMethodAmong_cons (ownDefinition?_eq_ok_iff.mp hc),
          findMethodAmong_cons (ownDefinition?_eq_ok_iff.mp (hsame ▸ hc))]
        exact ih fun d hd => hfront d (List.mem_cons_of_mem c hd)

/-- The class tells its lineage as it is. -/
def TellsLineage (w : World) (k : ClassRef) : Prop :=
  w.ancestors (.cls k) = .ok ((w.lineage k).map .cls)

/-- A class that is derived from one base and has nothing under the name has the method of its
base. -/
theorem Arises.findMethod_eq (h : w.Arises) {id : String} {o : ClassObject} {b : ClassRef}
    (ho : w.class? id = some o) (hb : o.bases = [b]) (hc : w.TellsLineage (.declared id))
    (hbase : w.TellsLineage b) (hk : w.Keeps (.cls (.declared id)) name none) :
    w.findMethod (.cls (.declared id)) name = w.findMethod (.cls b) name := by
  rw [TellsLineage, h.lineage_eq_cons ho hb, List.map_cons] at hc
  rw [findMethod_of_ancestors hc, findMethodAmong_cons hk, findMethod_of_ancestors hbase]

/-- An ordinary class has nothing under a name if and only if it stores nothing there, nor, if the
name is private, under the mangled name. -/
theorem IsOrdinary.keeps_none_iff {c : ClassRef} (h : w.IsOrdinary c) :
    w.Keeps (.cls c) name none ↔ w.stored? c name = none ∧
      (IsPrivateName name → w.stored? c (mangle (w.shortName c) name) = none) := by
  rw [← ownDefinition?_eq_ok_iff, h.ownDefinition?, Except.ok.injEq, Option.or_eq_none_iff,
    ite_eq_right_iff]
  simp only [Visibility.ofName_eq_priv_iff]

/-! ### Attributes that are no methods -/

/-- Going by its class, the attribute is no method: it is no wrapper, and it is a class or cannot be
called. -/
def IsNoMethod (w : World) (a : Value) : Prop :=
  [Builtin.staticMethod, .classMethod].any (w.isA a) = false ∧
    (w.isA a .type = true ∨ w.isCallable a = false)

/-- The object answers to the name of its class, and does not pass itself off as a wrapper. -/
def IsCandid (w : World) (a : Value) : Prop :=
  ∃ r, claimedClass? w.evaluator a = .ok r ∧
    ∀ c, r = some c → [Builtin.staticMethod, .classMethod].any (w.derives c) = false

/-- What is no wrapper is found to be none if and only if it is candid. -/
theorem isCandid_iff (h : [Builtin.staticMethod, .classMethod].any (w.isA a) = false) :
    w.IsCandid a ↔ w.isInstance w.evaluator a [.staticMethod, .classMethod] = .ok false := by
  have hisA : ∀ b ∈ [Builtin.staticMethod, .classMethod], w.isA a b = false := fun b hb =>
    Bool.eq_false_iff.mpr (List.any_eq_false.mp h b hb)
  cases hr : claimedClass? w.evaluator a with
  | error x =>
    rw [isInstance_of_unclaimed hr (hisA _ List.mem_cons_self)]
    refine iff_of_false ?_ (by simp)
    rintro ⟨r, hr', -⟩
    cases hr.symm.trans hr'
  | ok r =>
    have hany : ([Builtin.staticMethod, .classMethod].any fun b =>
        w.isA a b || r.any fun c => w.derives c b) =
          r.any fun c => [Builtin.staticMethod, .classMethod].any (w.derives c) := by
      cases r <;> simp [hisA]
    simp only [IsCandid, hr, Except.ok.injEq, exists_eq_left', isInstance_of_claimed hr, hany,
      Option.any_eq_false]

/-- An honest object that is no wrapper is candid. -/
theorem IsHonest.isCandid (h : w.IsHonest a)
    (hw : [Builtin.staticMethod, .classMethod].any (w.isA a) = false) : w.IsCandid a := by
  refine ⟨_, claimedClass?_of_honest h, fun c hc => ?_⟩
  obtain rfl := Option.some.inj hc
  exact hw

/-- What is no method by its class is described as no method if and only if it is candid. -/
theorem IsNoMethod.traits?_eq_none_iff (h : w.IsNoMethod a) :
    w.traits? a = .ok none ↔ w.IsCandid a := by
  obtain ⟨hb, hno⟩ := h
  constructor
  · intro ht
    obtain ⟨isWrapper, hw, -⟩ := bind_eq_ok_iff.mp ht
    cases isWrapper with
    | false => exact (isCandid_iff hb).mpr hw
    | true => exact absurd (Or.inl hw) (not_isMethod_of_traits? ht)
  · intro hc
    have hw := (isCandid_iff hb).mp hc
    obtain ⟨r, hr, -⟩ := hc
    rw [traits?, hw, ok_bind, isClass, isInstance_of_claimed hr]
    rcases hno with hno | hno
    · simp only [List.any_cons, hno, Bool.true_or, ok_bind, if_true]
      rfl
    · simp only [ok_bind, hno, Bool.false_eq_true, if_false]
      split <;> rfl

/-- An attribute that is no method by its class hides the methods behind it if and only if it is
candid. -/
theorem IsNoMethod.findMethod_eq_none_iff (h : w.IsNoMethod a)
    (hc : w.ancestors c = .ok (front ++ k :: behind)) (hfront : w.NoneKept name front)
    (hk : w.Keeps k name (some a)) : w.findMethod c name = .ok none ↔ w.IsCandid a := by
  rw [findMethod_of_ancestors hc, findMethodAmong_append hfront, findMethodAmong_cons_of_keeps hk,
    describe_eq_none_iff, h.traits?_eq_none_iff]

/-! ### Plain attributes -/

theorem isA_iff_of_builtin {b x : Builtin} (h : w.classOf a = .builtin b) :
    w.isA a x = true ↔ x ∈ b.lineage := by
  rw [isA, h, derives]
  simp [lineage]

theorem isCallable_iff_of_builtin {b : Builtin} (h : w.classOf a = .builtin b) :
    w.isCallable a = true ↔ ∃ x ∈ b.lineage, (x.attribute? "__call__").isSome = true := by
  rw [isCallable, classAttribute?, h, lookup?]
  simp [lineage, stored?]

end World

/-- The built-in classes of computed attributes, of plain values and of classes. -/
def Builtin.ofNoMethods : List Builtin :=
  [.property, .noneType, .bool, .int, .float, .complex, .str, .bytes, .bytearray, .list, .tuple,
    .dict, .set, .frozenset, .module, .type, .abcMeta]

namespace World

variable {w w' : World} {a c k : Value} {name : String} {front behind : List Value}

/-- A computed attribute, a plain value or a class of the built-in classes is no method. -/
theorem isNoMethod_of_builtin {b : Builtin} (h : w.classOf a = .builtin b)
    (hb : b ∈ Builtin.ofNoMethods) : w.IsNoMethod a := by
  have hwrapper : ∀ b ∈ Builtin.ofNoMethods, ∀ x ∈ [Builtin.staticMethod, .classMethod],
      x ∉ b.lineage := by decide
  have hcall : ∀ b ∈ Builtin.ofNoMethods, Builtin.type ∈ b.lineage ∨
      ∀ x ∈ b.lineage, ¬ (x.attribute? "__call__").isSome = true := by decide
  refine ⟨List.any_eq_false.mpr fun x hx ha => ?_,
    (hcall b hb).imp (isA_iff_of_builtin h).mpr fun hno => Bool.eq_false_iff.mpr fun ha => ?_⟩
  · exact hwrapper b hb x hx ((isA_iff_of_builtin h).mp ha)
  · obtain ⟨x, hx, hs⟩ := (isCallable_iff_of_builtin h).mp ha
    exact hno x hx hs

/-! ### Shadowing -/

/-- **The first class that has something under a name decides what method a class has.** What comes
behind it does not count, nor does anything else in which two worlds differ. If it has no method
there, the class has none, if and only if what it has is candid, and so in particular if that is
honest or an object of a plain built-in class. A class with one base that tells its lineage, and has
nothing under the name itself, has the method of its base. -/
theorem findMethod_shadowed (w w' : World) (name : String) :
    (∀ (c c' k a a' : Value) (front behind behind' : List Value),
      w.ancestors c = .ok (front ++ k :: behind) →
      w'.ancestors c' = .ok (front ++ k :: behind') → w.PassAlike w' name front →
      w.Keeps k name (some a) → w'.Keeps k name (some a') → w.AreAlike w' a a' →
      w.findMethod c name = w'.findMethod c' name) ∧
    (∀ (c k a : Value) (front behind : List Value),
      w.ancestors c = .ok (front ++ k :: behind) → w.NoneKept name front →
      w.Keeps k name (some a) →
      (w.IsNoMethod a → (w.findMethod c name = .ok none ↔ w.IsCandid a) ∧
        (w.IsHonest a → w.findMethod c name = .ok none)) ∧
      ∀ b ∈ Builtin.ofNoMethods, w.classOf a = .builtin b → w.findMethod c name = .ok none) ∧
    ∀ (id : String) (o : ClassObject) (b : ClassRef), w.Arises → w.class? id = some o →
      o.bases = [b] →
      (w.TellsLineage (.declared id) → w.TellsLineage b →
        w.Keeps (.cls (.declared id)) name none →
        w.findMethod (.cls (.declared id)) name = w.findMethod (.cls b) name) ∧
      (w.IsOrdinary (.declared id) → w.IsOrdinary b → w.stored? (.declared id) name = none →
        (IsPrivateName name →
          w.stored? (.declared id) (mangle (w.shortName (.declared id)) name) = none) →
        w.findMethod (.cls (.declared id)) name = w.findMethod (.cls b) name) := by
  refine ⟨?_, ?_, ?_⟩
  · intro c c' k a a' front behind behind' hc hc' hfront hk hk' ha
    rw [findMethod_of_ancestors hc, findMethod_of_ancestors hc',
      findMethodAmong_congr hfront hk hk' ha]
  · intro c k a front behind hc hfront hk
    have hnone (hn : w.IsNoMethod a) (hh : w.IsHonest a) : w.findMethod c name = .ok none :=
      (hn.findMethod_eq_none_iff hc hfront hk).mpr (hh.isCandid hn.1)
    exact ⟨fun hn => ⟨hn.findMethod_eq_none_iff hc hfront hk, hnone hn⟩, fun b hb ha =>
      hnone (isNoMethod_of_builtin ha hb) (isHonest_of_builtin ha)⟩
  · intro id o b hw ho hb
    refine ⟨hw.findMethod_eq ho hb, fun hc hbase hs hm => ?_⟩
    exact hw.findMethod_eq ho hb hc.ancestors hbase.ancestors (hc.keeps_none_iff.mpr ⟨hs, hm⟩)

end World

/-! ### A class that does not tell what it is -/

/-- The class `N` is an object of the class `M`, whose objects have a length in the place of their
class. The class `K` has it under the name of the method `a` of its base. -/
def Declaration.classless : List Declaration :=
  [{ Declaration.plain "M" [("__class__", .property (some (.builtinFunction "len")) none)] with
      bases := [.builtin .type] },
   { Declaration.plain "N" [] with metaclass := some (.declared "M") },
   .plain "B" [("a", .function none none none)],
   { Declaration.plain "K" [("a", .cls (.declared "N"))] with bases := [.declared "B"] }]

/-- The world with these classes. -/
def World.classless : World := (Declaration.classless.foldlM World.declare {}).toOption.getD {}

namespace World

/-- The first class in the lineage of `K` that has something under the name `a` has a class there,
which is no method. Looking for a method `a` complains of it. -/
theorem complaint_of_classless :
    Declaration.classless.foldlM World.declare {} = .ok classless ∧
      classless.ancestors (.cls (.declared "K")) =
        .ok ([] ++ .cls (.declared "K") :: [.cls (.declared "B"), .cls (.builtin .object)]) ∧
      classless.Keeps (.cls (.declared "K")) "a" (some (.cls (.declared "N"))) ∧
      classless.IsNoMethod (.cls (.declared "N")) ∧
      classless.findMethod (.cls (.declared "K")) "a" = .error (.complaint (.noLength "M")) := by
  exact ⟨rfl, rfl, .literal (.present rfl rfl rfl), ⟨rfl, Or.inl rfl⟩, rfl⟩

end World

end Conformance
