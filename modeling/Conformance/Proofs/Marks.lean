import Conformance.Proofs.Totality

/-!
# Marks

What an object answers to the name of a mark. An object that does nothing about names of its own
(`World.IsUnhooked`) answers what it carries itself (`Value.ownMark?`), or else what the first of
some classes stores (`World.markSources`): those in the lineage of its own class, and if it is a
class, those in its own lineage before them. So a mark that was put on one class may be answered by
another object.

Where all marks are truth values (`World.IsPlain`), the traits of a method can be told from its
class and from the marks that it and what it wraps carry and inherit
(`World.IsPlainlyMarked.traits?_eq`).
-/

namespace Conformance

namespace Value

/-- What an object carries itself under the name of a mark. -/
def ownMark? (v : Value) (mark : String) : Option Value :=
  match v with
  | .function _ isAbstract isFinal | .partialFunction isAbstract isFinal =>
    mark? isAbstract isFinal mark
  | .staticMethod _ isFinal | .classMethod _ isFinal => mark? none isFinal mark
  | .member (.builtin .partialMethod) name .written =>
    if name = unboundName then unboundPartialMember? mark else none
  | _ => none

end Value

namespace World

variable (w : World)

/-- The classes along which an object looks for a mark that it does not carry itself. -/
def markSources : Value → List ClassRef
  | .cls c => w.lineage c ++ w.lineage (w.metaclass c)
  | v => w.lineage (w.classOf v)

/-- The mark that an object carries itself, or inherits. -/
def markOf? (v : Value) (mark : String) : Option Value :=
  (v.ownMark? mark).or (w.lookup? (w.markSources v) mark)

/-- The object is no module and no bound method, and its class leaves it to the built-in classes to
answer to names and to the name of the class. -/
structure IsUnhooked (v : Value) : Prop where
  notModule : ∀ name, v ≠ .module name
  notBound : ∀ f self, v ≠ .bound .boundMethod f self
  answers : ∃ b, w.special v "__getattribute__" = .builtin b
  unanswered : w.classAttribute? v "__getattr__" = none
  ofClass : w.classAttribute? v "__class__" =
    some (.member (.builtin .object) "__class__" (.computed .type))

/-- The classes along which the object looks for the mark store no other values for it than true and
false. -/
def InheritsPlainly (v : Value) (mark : String) : Prop :=
  ∀ c ∈ w.markSources v, IsPlainMark (w.stored? c mark)

variable {w} {v a f : Value} {mark : String}

/-! ### Unhooked objects -/

theorem IsUnhooked.isHonest (h : w.IsUnhooked v) : w.IsHonest v := by
  obtain ⟨b, hb⟩ := h.answers
  exact isHonest_of_plain hb h.ofClass

/-- An object of a built-in class that is no module and no bound method is unhooked. -/
theorem isUnhooked_of_builtin {b : Builtin} (h : w.classOf v = .builtin b)
    (hm : ∀ name, v ≠ .module name) (hb : ∀ f self, v ≠ .bound .boundMethod f self) :
    w.IsUnhooked v := by
  refine ⟨hm, hb, ?_, ?_, ?_⟩
  · rw [special, classAttribute?, h]
    cases b <;> exact ⟨_, rfl⟩
  · rw [classAttribute?, h]
    cases b <;> rfl
  · rw [classAttribute?, h]
    cases b <;> rfl

/-- An ordinary class is unhooked. -/
theorem IsOrdinary.isUnhooked {c : ClassRef} (h : w.IsOrdinary c) : w.IsUnhooked (.cls c) where
  notModule _ := Value.noConfusion
  notBound _ _ := Value.noConfusion
  answers := ⟨.type, by rw [special, h.classAttribute? rfl rfl]; rfl⟩
  unanswered := h.classAttribute? rfl rfl
  ofClass := h.classAttribute? rfl rfl

/-! ### Reading marks -/

/-- What an object other than a module stores itself under the name of a mark is the mark that it
carries. -/
theorem own?_mark (e : Evaluator) (hm : mark = abstractMark ∨ mark = finalMark)
    (hmodule : ∀ name, v ≠ .module name) : w.own? e v mark = v.ownMark? mark := by
  have hcopied (wrapped : Option Value) : copiedMember? e wrapped mark = none := by
    rcases hm with rfl | rfl <;> rfl
  cases v with
  | function => rfl
  | partialFunction => rfl
  | staticMethod => simp only [own?, Value.ownMark?, hcopied, Option.or_none]
  | classMethod => simp only [own?, Value.ownMark?, hcopied, Option.or_none]
  | member owner name kind =>
    rcases owner with b | id
    · cases b <;> cases kind <;> rfl
    · cases kind <;> rfl
  | bound kind => rcases hm with rfl | rfl <;> cases kind <;> rfl
  | partialMethod => rcases hm with rfl | rfl <;> rfl
  | module name => exact absurd rfl (hmodule name)
  | «instance» c content =>
    cases content with
    | none => rfl
    | some content =>
      simp only [own?, extensionMember?, Value.ownMark?, hcopied]
      rcases hm with rfl | rfl <;> cases content <;> rfl
  | _ => rfl

/-- An object of which the class stores a plain mark, or none, answers its own mark or else that. -/
theorem readObject_mark (n : Nat) {own : Option Value}
    (h : IsPlainMark (w.classAttribute? v mark)) :
    (w.readObject (w.evaluatorWithin (n + 1)) v own mark).orMissing =
      .ok (own.or (w.classAttribute? v mark)) := by
  unfold readObject
  cases hd : w.classAttribute? v mark with
  | none => cases own <;> rfl
  | some d =>
    obtain ⟨b, rfl⟩ := h d hd
    cases own <;> rfl

/-- A class answers the mark that is stored first along its lineage, or else along that of its own
class. -/
theorem readClass_mark (n : Nat) {c : ClassRef} (h : IsPlainMark (w.lookup? (w.lineage c) mark))
    (hmeta : IsPlainMark (w.classAttribute? (.cls c) mark)) :
    (w.readClass (w.evaluatorWithin (n + 1)) c mark).orMissing =
      .ok ((w.lookup? (w.lineage c) mark).or (w.classAttribute? (.cls c) mark)) := by
  unfold readClass
  cases hd : w.classAttribute? (.cls c) mark with
  | none =>
    cases ha : w.lookup? (w.lineage c) mark with
    | none => rfl
    | some a =>
      obtain ⟨b, rfl⟩ := h a ha
      rfl
  | some d =>
    obtain ⟨b, rfl⟩ := hmeta d hd
    cases ha : w.lookup? (w.lineage c) mark with
    | none => rfl
    | some a =>
      obtain ⟨b, rfl⟩ := h a ha
      rfl

/-- Where classes store plain marks, so does the first of them that stores one. -/
theorem isPlainMark_lookup? {cs : List ClassRef} (h : ∀ c ∈ cs, IsPlainMark (w.stored? c mark)) :
    IsPlainMark (w.lookup? cs mark) := by
  intro a ha
  obtain ⟨c, hc, hs⟩ := List.exists_of_findSome?_eq_some ha
  exact h c hc a hs

theorem lookup?_append (cs ds : List ClassRef) (name : String) :
    w.lookup? (cs ++ ds) name = (w.lookup? cs name).or (w.lookup? ds name) :=
  List.findSome?_append

/-- An unhooked object answers the mark that it carries or inherits. -/
theorem IsUnhooked.readIfAny_mark (h : w.IsUnhooked v) (hp : w.InheritsPlainly v mark)
    (hm : mark = abstractMark ∨ mark = finalMark) (n : Nat) :
    (w.evaluatorWithin (n + 2)).readIfAny v mark = .ok (w.markOf? v mark) := by
  obtain ⟨b, hfirst⟩ := h.answers
  have hread : (w.evaluatorWithin (n + 2)).read v mark =
      w.readBuiltin (w.evaluatorWithin (n + 1)) v mark := by
    change w.readWith (w.evaluatorWithin (n + 1)) v mark = _
    simp only [readWith, readFirst, hfirst, h.unanswered]
    cases w.readBuiltin (w.evaluatorWithin (n + 1)) v mark <;> rfl
  rw [Evaluator.readIfAny, hread]
  by_cases hc : ∃ c, v = .cls c
  · obtain ⟨c, rfl⟩ := hc
    have hlineage : IsPlainMark (w.lookup? (w.lineage c) mark) :=
      isPlainMark_lookup? fun d hd => hp d (List.mem_append_left _ hd)
    have hmeta : IsPlainMark (w.classAttribute? (.cls c) mark) :=
      isPlainMark_lookup? fun d hd => hp d (List.mem_append_right _ hd)
    rw [readBuiltin, readClass_mark n hlineage hmeta, markOf?, markSources, lookup?_append]
    rfl
  · have hsources : w.markSources v = w.lineage (w.classOf v) := by
      cases v <;> first | rfl | exact absurd ⟨_, rfl⟩ hc
    have hbuiltin : w.readBuiltin (w.evaluatorWithin (n + 1)) v mark =
        w.readObject (w.evaluatorWithin (n + 1)) v (v.ownMark? mark) mark := by
      rw [← own?_mark (w := w) (w.evaluatorWithin (n + 1)) hm h.notModule]
      unfold readBuiltin
      split
      · exact absurd ⟨_, rfl⟩ hc
      · exact absurd rfl (h.notModule _)
      · exact absurd rfl (h.notBound _ _)
      · rfl
    have hclass : IsPlainMark (w.classAttribute? v mark) :=
      isPlainMark_lookup? fun c hc => hp c (hsources ▸ hc)
    rw [hbuiltin, readObject_mark n hclass, markOf?, hsources]
    rfl

/-- No built-in class stores a mark for final. -/
theorem stored?_builtin_finalMark (b : Builtin) : w.stored? (.builtin b) finalMark = none := by
  cases b <;> rfl

theorem isPlainMark_builtin_finalMark (bs : List Builtin) :
    ∀ c ∈ bs.map ClassRef.builtin, IsPlainMark (w.stored? c finalMark) := by
  intro c hc v hv
  obtain ⟨b, -, rfl⟩ := List.mem_map.mp hc
  cases (stored?_builtin_finalMark b).symm.trans hv

/-! ### Plain objects -/

end World

/-- The mark is there, and it is the value true. -/
def isSet : Option Value → Bool
  | some (.bool true) => true
  | _ => false

namespace World

variable (w : World)

/-- The object is unhooked, and the marks that it carries and inherits are truth values. The mark
for final that it carries itself may be anything. -/
structure IsPlain (v : Value) : Prop extends w.IsUnhooked v where
  ownAbstract : IsPlainMark (v.ownMark? abstractMark)
  inheritedAbstract : w.InheritsPlainly v abstractMark
  inheritedFinal : w.InheritsPlainly v finalMark

/-- The object carries or inherits the mark, and it is the value true. -/
def hasMark (v : Value) (mark : String) : Bool := isSet (w.markOf? v mark)

variable {w} {v : Value}

/-- An unhooked object is marked as final if it carries or inherits the mark. -/
theorem IsUnhooked.isMarkedFinal (h : w.IsUnhooked v) (hp : w.InheritsPlainly v finalMark) :
    w.isMarkedFinal v = .ok (w.hasMark v finalMark) := by
  have hread : w.evaluator.readIfAny v finalMark = .ok (w.markOf? v finalMark) :=
    h.readIfAny_mark hp (Or.inr rfl) 398
  rw [World.isMarkedFinal, hread, ok_bind, hasMark]
  cases w.markOf? v finalMark with
  | none => rfl
  | some mark =>
    cases mark with
    | bool b => cases b <;> rfl
    | _ => rfl

/-- A plain object is marked as abstract if it carries or inherits the mark, in whatever depth it is
read. -/
theorem IsPlain.isMarkedAbstract (h : w.IsPlain v) (n : Nat) :
    w.isMarkedAbstract (w.evaluatorWithin (n + 2)) v = .ok (w.hasMark v abstractMark) := by
  have hread := h.toIsUnhooked.readIfAny_mark h.inheritedAbstract (Or.inl rfl) n
  have hplain : IsPlainMark (w.markOf? v abstractMark) := by
    intro a ha
    rcases Option.or_eq_some_iff.mp ha with ha | ⟨-, ha⟩
    · exact h.ownAbstract a ha
    · exact isPlainMark_lookup? h.inheritedAbstract a ha
  rw [World.isMarkedAbstract, hread, ok_bind, hasMark]
  cases hmark : w.markOf? v abstractMark with
  | none => rfl
  | some a =>
    obtain ⟨b, rfl⟩ := hplain a hmark
    cases b <;> rfl

/-- A function with a plain mark for abstract is plain. -/
theorem isPlain_function {gives : Option String} {isAbstract isFinal : Option Value}
    (h : IsPlainMark isAbstract) : w.IsPlain (.function gives isAbstract isFinal) where
  toIsUnhooked := isUnhooked_of_builtin rfl nofun nofun
  ownAbstract := h
  inheritedAbstract c hc := by
    have hc : c ∈ [Builtin.function, .object].map ClassRef.builtin := hc
    rcases List.mem_pair.mp hc with rfl | rfl <;> nofun
  inheritedFinal := isPlainMark_builtin_finalMark [.function, .object]

/-- An ordinary class is plain if the classes in its lineage store plain marks. -/
theorem IsOrdinary.isPlain {c : ClassRef} (h : w.IsOrdinary c)
    (habstract : ∀ d ∈ w.lineage c, IsPlainMark (w.stored? d abstractMark))
    (hfinal : ∀ d ∈ w.lineage c, IsPlainMark (w.stored? d finalMark)) : w.IsPlain (.cls c) := by
  have hmeta : ∃ bs : List Builtin, w.lineage (w.metaclass c) = bs.map .builtin ∧
      ∀ b ∈ bs, b.attribute? abstractMark = none := by
    rcases h with hm | ⟨hm, -⟩
    · exact ⟨[.type, .object], by rw [hm]; rfl, by decide⟩
    · exact ⟨[.abcMeta, .type, .object], by rw [hm]; rfl, by decide⟩
  obtain ⟨bs, hbs, hnone⟩ := hmeta
  refine ⟨h.isUnhooked, nofun, fun d hd => ?_, fun d hd => ?_⟩
  · rcases List.mem_append.mp hd with hd | hd
    · exact habstract d hd
    · obtain ⟨b, hb, rfl⟩ := List.mem_map.mp (hbs ▸ hd)
      rw [show w.stored? (.builtin b) abstractMark = none from hnone b hb]
      exact nofun
  · rcases List.mem_append.mp hd with hd | hd
    · exact hfinal d hd
    · exact isPlainMark_builtin_finalMark bs d (hbs ▸ hd)

end World

/-! ### Methods with plain marks -/

/-- What a wrapper wraps, or the attribute itself. -/
def Value.target : Value → Value
  | .staticMethod (some f) _ | .classMethod (some f) _ => f
  | a => a

namespace World

variable (w : World)

/-- The attribute is a wrapper of a plain object, or it is a plain object and no wrapper. -/
inductive IsPlainlyMarked : Value → Prop where
  /-- A static method. -/
  | staticMethod {f : Value} {mark : Option Value} : w.IsPlain f →
      IsPlainlyMarked (.staticMethod (some f) mark)
  /-- A class-wide method. -/
  | classMethod {f : Value} {mark : Option Value} : w.IsPlain f →
      IsPlainlyMarked (.classMethod (some f) mark)
  /-- Something that wraps nothing. -/
  | other {a : Value} : w.IsPlain a → [Builtin.staticMethod, .classMethod].any (w.isA a) = false →
      IsPlainlyMarked a

/-- The traits of the method that an attribute is, if it is one, by its class and by the marks that
it and what it wraps carry and inherit. -/
def plainTraits? (a : Value) : Option Traits :=
  let isWrapper := [Builtin.staticMethod, .classMethod].any (w.isA a)
  if isWrapper || (!w.isA a .type && w.isCallable a) then
    some ⟨isWrapper, w.hasMark a.target abstractMark,
      w.hasMark a finalMark || w.hasMark a.target finalMark⟩
  else none

variable {w} {a f : Value} {mark : Option Value}

theorem target_of_isA (h : [Builtin.staticMethod, .classMethod].any (w.isA a) = false) :
    a.target = a := by
  cases a <;> first | rfl | cases h

/-- A wrapper is abstract if what it wraps has the mark. -/
theorem isAbstract_of_wrapped (h : w.IsPlain f)
    (hread : w.read a abstractMark =
      (do return .bool (← w.isMarkedAbstract (w.evaluatorWithin 398) f))) :
    w.isAbstract a = .ok (w.hasMark f abstractMark) := by
  rw [h.isMarkedAbstract 396] at hread
  have hany : w.evaluator.readIfAny a abstractMark =
      .ok (some (.bool (w.hasMark f abstractMark))) := Outcome.orMissing_eq_some_iff.mpr hread
  rw [World.isAbstract, World.isMarkedAbstract, hany]
  rfl

/-- A wrapper of a plain object has the traits that the marks of the two give it. -/
theorem traits?_of_wrapped (h : w.IsPlain f) {b : Builtin} (hclass : w.classOf a = .builtin b)
    (hb : b = .staticMethod ∨ b = .classMethod)
    (hsources : w.markSources a = [b, .object].map .builtin) (hf : w.read a "__func__" = .ok f)
    (habstract : w.read a abstractMark =
      (do return .bool (← w.isMarkedAbstract (w.evaluatorWithin 398) f)))
    (htarget : a.target = f) : w.traits? a = .ok (w.plainTraits? a) := by
  have hunhooked : w.IsUnhooked a := by
    refine isUnhooked_of_builtin hclass ?_ ?_
    · rintro name rfl
      rcases hb with rfl | rfl <;> cases hclass
    · rintro f self rfl
      rcases hb with rfl | rfl <;> cases hclass
  have hplain : w.InheritsPlainly a finalMark := by
    rw [InheritsPlainly, hsources]
    exact isPlainMark_builtin_finalMark _
  have hw : [Builtin.staticMethod, .classMethod].any (w.isA a) = true := by
    rcases hb with rfl | rfl <;> simp only [List.any_cons, isA, hclass] <;> rfl
  rw [traits?, isInstance_of_honest hunhooked.isHonest, hw, ok_bind, if_pos rfl, hf, ok_bind,
    isAbstract_of_wrapped h habstract, ok_bind, isEitherFinal, hunhooked.isMarkedFinal hplain,
    ok_bind, h.toIsUnhooked.isMarkedFinal h.inheritedFinal, plainTraits?, hw, htarget]
  cases w.hasMark a finalMark <;> rfl

/-- An attribute that is plainly marked has the traits that it has by its class and its marks. -/
theorem IsPlainlyMarked.traits?_eq (h : w.IsPlainlyMarked a) :
    w.traits? a = .ok (w.plainTraits? a) := by
  cases h with
  | staticMethod h =>
    exact traits?_of_wrapped h rfl (Or.inl rfl) rfl rfl (read_of_plain (b := .object) rfl rfl) rfl
  | classMethod h =>
    exact traits?_of_wrapped h rfl (Or.inr rfl) rfl rfl (read_of_plain (b := .object) rfl rfl) rfl
  | other h hw =>
    have hhonest := h.toIsUnhooked.isHonest
    have habstract : w.isAbstract a = .ok (w.hasMark a abstractMark) := h.isMarkedAbstract 398
    rw [traits?, isInstance_of_honest hhonest, hw, ok_bind, isClass,
      isInstance_of_honest hhonest, ok_bind, habstract,
      h.toIsUnhooked.isMarkedFinal h.inheritedFinal, plainTraits?, target_of_isA hw, hw,
      List.any_cons, List.any_nil, Bool.or_false, Bool.or_self]
    cases w.isA a .type <;> cases w.isCallable a <;> rfl

end World

end Conformance
