import Conformance.Proofs.Marking

/-!
# Final classes

A method that is an object of a declared class, or wraps one, or wraps a class, answers to the name
of the mark for final with what classes store there, if it carries no mark itself. So marking a
class as final makes methods final that were never marked (`World.Inherits`). It does nothing else
to them, and nothing at all to other methods, such as functions
(`World.findMethod_markFinal_iff`). In the world `World.calling` there are such methods.
-/

namespace Conformance

/-! ### Traits of methods -/

/-- The traits of a method that is final. -/
def Traits.markFinal (t : Traits) : Traits := { t with isFinal := true }

namespace World

variable {w : World} {id name : String} {c k : ClassRef} {v a f : Value}

/-- A wrapper inherits no mark by itself. -/
theorem IsPlainlyMarked.inherits_target (h : w.IsPlainlyMarked a) (hi : w.Inherits id a) :
    w.Inherits id a.target := by
  cases h with
  | staticMethod => exact absurd hi.2 (not_reaches_builtin [.staticMethod, .object])
  | classMethod => exact absurd hi.2 (not_reaches_builtin [.classMethod, .object])
  | other _ hw => rwa [target_of_isA hw]

/-- A method that inherits from a class is final when the class is marked, and otherwise as it
was. -/
theorem plainTraits?_markFinal_of_inherits (hd : (w.class? id).isSome = true)
    (hi : w.Inherits id a.target) :
    (w.markFinal id).plainTraits? a = (w.plainTraits? a).map Traits.markFinal := by
  have hmark : (w.markFinal id).hasMark a.target finalMark = true :=
    (hasMark_markFinal_iff hd _).mpr (Or.inr hi)
  simp only [plainTraits?, isA_markFinal, isCallable_markFinal, hasMark_markFinal_abstract, hmark,
    Bool.or_true]
  cases [Builtin.staticMethod, .classMethod].any (w.isA a) ||
    (!w.isA a .type && w.isCallable a) <;> rfl

/-- A method that does not inherit from a class is as it was when the class is marked. -/
theorem IsPlainlyMarked.plainTraits?_markFinal (h : w.IsPlainlyMarked a)
    (hd : (w.class? id).isSome = true) (hi : ¬ w.Inherits id a.target) :
    (w.markFinal id).plainTraits? a = w.plainTraits? a := by
  have hmark (v : Value) (hv : ¬ w.Inherits id v) :
      (w.markFinal id).hasMark v finalMark = w.hasMark v finalMark := by
    rw [Bool.eq_iff_iff, hasMark_markFinal_iff hd, or_iff_left hv]
  simp only [plainTraits?, isA_markFinal, isCallable_markFinal, hasMark_markFinal_abstract,
    hmark _ hi, hmark _ fun ha => hi (h.inherits_target ha)]

/-! ### Methods -/

/-- A method is described by the traits that its class and its marks give it. -/
theorem IsPlainlyMarked.describe_eq (h : w.IsPlainlyMarked a) (v : Visibility) :
    w.describe name a v =
      match w.plainTraits? a with
      | none => .ok none
      | some t => (Descriptor.create name v t).map some := by
  rw [describe, h.traits?_eq]
  rfl

/-- Looking for a method in a class whose lineage is ordinary comes to what is stored first. -/
theorem findMethod_of_firstStored (hk : ∀ c ∈ k :: w.lineage k, w.IsOrdinary c) :
    w.findMethod (.cls k) name =
      match w.firstStored? name (w.lineage k) with
      | none => .ok none
      | some a => w.describe name a (.ofName name) := by
  obtain ⟨hself, hlineage⟩ := List.forall_mem_cons.mp hk
  rw [findMethod_of_ancestors hself.ancestors, findMethodAmong,
    definitionAmong?_of_ordinary hlineage]
  rfl

/-- A mangled name is not that of the mark. -/
theorem mangle_ne_finalMark (hp : Visibility.ofName name = .priv) (owner : String) :
    mangle owner name ≠ finalMark := by
  obtain ⟨⟨rest, hname⟩, -⟩ := Visibility.ofName_eq_priv_iff.mp hp
  intro h
  have hchars : '_' :: (owner.toList.dropWhile (· == '_') ++ name.toList) = finalMark.toList := by
    rw [← h, mangle, mangleWith, trimmedOf]
    simp
  cases hbare : owner.toList.dropWhile (· == '_') with
  | nil =>
    rw [hbare, ← hname] at hchars
    cases hchars
  | cons c cs =>
    -- what is left of the name of the class does not begin with an underscore
    have hc : (c == '_') = false := by
      have hhead := List.head?_dropWhile_not (· == '_') owner.toList
      rw [hbare] at hhead
      simpa using hhead
    rw [hbare] at hchars
    obtain ⟨rfl, -⟩ := List.cons.inj (List.cons.inj hchars).2
    cases hc

/-- What a lineage stores first under a name stays as it is, unless the name is that of the mark and
the class that is marked is in the lineage. -/
theorem firstStored?_markFinal {cs : List ClassRef} (hn : name = finalMark → .declared id ∉ cs) :
    (w.markFinal id).firstStored? name cs = w.firstStored? name cs := by
  induction cs with
  | nil => rfl
  | cons c cs ih =>
    have hc : (w.markFinal id).stored? c name = w.stored? c name :=
      stored?_markFinal fun h hid => hn h (hid ▸ List.mem_cons_self)
    have hmangled : (if Visibility.ofName name = .priv then
        (w.markFinal id).stored? c (mangle ((w.markFinal id).shortName c) name) else none) =
          if Visibility.ofName name = .priv then w.stored? c (mangle (w.shortName c) name)
          else none := by
      by_cases hp : Visibility.ofName name = .priv
      · rw [if_pos hp, if_pos hp, shortName_markFinal,
          stored?_markFinal fun h => absurd h (mangle_ne_finalMark hp _)]
      · rw [if_neg hp, if_neg hp]
    rw [firstStored?, firstStored?, List.findSome?_cons, List.findSome?_cons, hc, hmangled]
    cases (w.stored? c name).or _ with
    | some a => rfl
    | none => exact ih fun h hmem => hn h (List.mem_cons_of_mem c hmem)

/-! ### Marking a class and looking for methods -/

/-- When a class is marked, looking for a method still comes to what is stored first. -/
theorem findMethod_markFinal (hk : ∀ c ∈ k :: w.lineage k, w.IsOrdinary c)
    (hn : name = finalMark → .declared id ∉ w.lineage k) :
    (w.markFinal id).findMethod (.cls k) name =
      match w.firstStored? name (w.lineage k) with
      | none => .ok none
      | some a => (w.markFinal id).describe name a (.ofName name) := by
  have hk' : ∀ c ∈ k :: (w.markFinal id).lineage k, (w.markFinal id).IsOrdinary c := by
    rw [lineage_markFinal]
    exact fun c hc => (hk c hc).markFinal
  rw [findMethod_of_firstStored hk', lineage_markFinal, firstStored?_markFinal hn]

/-- An object of a built-in class that is no class inherits from no declared class. -/
theorem not_inherits_of_builtin {b : Builtin} (h : w.classOf v = .builtin b)
    (hc : ∀ c, v ≠ .cls c) : ¬ w.Inherits id v := by
  have hsources : w.markSources v = b.lineage.map .builtin := by
    have hlineage : w.markSources v = w.lineage (w.classOf v) := by
      cases v <;> first | rfl | exact absurd rfl (hc _)
    rw [hlineage, h]
    rfl
  intro hi
  exact not_reaches_builtin b.lineage (hsources ▸ hi.2)

/-- A plainly marked attribute is a method if and only if it has traits, and these tell whether it
is final. -/
theorem IsPlainlyMarked.isMethod_iff (h : w.IsPlainlyMarked a) :
    w.IsMethod a ↔ ∃ t, w.plainTraits? a = some t ∧ (t.isFinal = true ↔ w.IsFinal a) := by
  cases ht : w.plainTraits? a with
  | none =>
    refine iff_of_false (not_isMethod_of_traits? (h.traits?_eq.trans (congrArg _ ht))) ?_
    rintro ⟨t, htr, -⟩
    cases htr
  | some t =>
    have htraits : w.traits? a = .ok (some t) := h.traits?_eq.trans (congrArg _ ht)
    exact iff_of_true (isMethod_of_traits? htraits) ⟨t, rfl, describes_of_traits? htraits .final⟩

section

variable (hd : (w.class? id).isSome = true) (hk : ∀ c ∈ k :: w.lineage k, w.IsOrdinary c)
  (hn : name = finalMark → .declared id ∉ w.lineage k)
  (ha : w.firstStored? name (w.lineage k) = some a) (hp : w.IsPlainlyMarked a)

include hd hk hn ha hp

/-- An attribute that keeps its traits when a class is marked is found as before. -/
theorem findMethod_markFinal_of_plainTraits?_eq
    (h : (w.markFinal id).plainTraits? a = w.plainTraits? a) :
    (w.markFinal id).findMethod (.cls k) name = w.findMethod (.cls k) name := by
  rw [findMethod_markFinal hk hn, findMethod_of_firstStored hk, ha]
  simp only [(hp.markFinal hd).describe_eq, hp.describe_eq, h]

/-- A method that inherits from a class is final when the class is marked, and nothing else about it
is changed. -/
theorem findMethod_markFinal_of_inherits (hname : name ≠ "") (hm : w.IsMethod a)
    (hi : w.Inherits id a.target) :
    ∃ d d', w.findMethod (.cls k) name = .ok (some d) ∧
      (w.markFinal id).findMethod (.cls k) name = .ok (some d') ∧ d'.name = d.name ∧
      d'.visibility = d.visibility ∧ d'.traits = d.traits.markFinal ∧
      (d.traits.isFinal = true ↔ w.IsFinal a) := by
  obtain ⟨t, ht, hfinal⟩ := hp.isMethod_iff.mp hm
  obtain ⟨d, hc⟩ := Descriptor.exists_create (v := .ofName name) (t := t) hname
  obtain ⟨d', hc'⟩ := Descriptor.exists_create (v := .ofName name) (t := t.markFinal) hname
  refine ⟨d, d', ?_, ?_, ?_, ?_, ?_, ?_⟩
  · rw [findMethod_of_firstStored hk, ha]
    simp only [hp.describe_eq, ht, hc]
    rfl
  · rw [findMethod_markFinal hk hn, ha]
    simp only [(hp.markFinal hd).describe_eq, plainTraits?_markFinal_of_inherits hd hi, ht,
      Option.map_some, hc']
    rfl
  · rw [(Descriptor.of_create hc').1, (Descriptor.of_create hc).1]
  · rw [Descriptor.visibility_of_create hc', Descriptor.visibility_of_create hc]
  · rw [Descriptor.traits_of_create hc', Descriptor.traits_of_create hc]
  · rw [Descriptor.traits_of_create hc]
    exact hfinal

/-- Marking a class changes what is found if and only if that is a method which inherits from the
class and is not final already. -/
theorem findMethod_markFinal_eq_iff :
    (w.markFinal id).findMethod (.cls k) name = w.findMethod (.cls k) name ↔
      (name ≠ "" → w.IsMethod a → w.Inherits id a.target → w.IsFinal a) := by
  constructor
  · intro h hname hm hi
    obtain ⟨d, d', hf, hf', -, -, htraits, hfinal⟩ :=
      findMethod_markFinal_of_inherits hd hk hn ha hp hname hm hi
    obtain rfl : d' = d := Option.some.inj (answer_unique hf' (h.trans hf))
    rw [← hfinal, htraits]
    rfl
  · intro h
    by_cases hi : w.Inherits id a.target
    swap
    · exact findMethod_markFinal_of_plainTraits?_eq hd hk hn ha hp
        (hp.plainTraits?_markFinal hd hi)
    have hmap := plainTraits?_markFinal_of_inherits hd hi
    cases ht : w.plainTraits? a with
    | none =>
      rw [ht] at hmap
      exact findMethod_markFinal_of_plainTraits?_eq hd hk hn ha hp (hmap.trans ht.symm)
    | some t =>
      by_cases hname : name = ""
      · -- a method without a name is refused, whatever its traits are
        subst hname
        rw [findMethod_markFinal hk hn, findMethod_of_firstStored hk, ha]
        simp only [(hp.markFinal hd).describe_eq, hp.describe_eq, hmap, ht]
        rfl
      · have htraits : w.traits? a = .ok (some t) := hp.traits?_eq.trans (congrArg _ ht)
        have hfinal : t.isFinal = true :=
          (describes_of_traits? htraits .final).mpr (h hname (isMethod_of_traits? htraits) hi)
        have hsame : t.markFinal = t := by rw [Traits.markFinal, ← hfinal]
        rw [ht, Option.map_some, hsame] at hmap
        exact findMethod_markFinal_of_plainTraits?_eq hd hk hn ha hp (hmap.trans ht.symm)

end

/-- An ordinary class stands for itself. -/
theorem IsOrdinary.resolve_cls (h : w.IsOrdinary k) : w.resolve (.cls k) = .ok (some (.cls k)) := by
  have hclass : w.classOf (.cls k) = .builtin .type ∨ w.classOf (.cls k) = .builtin .abcMeta :=
    h.imp id And.left
  have htype : w.isA (.cls k) .type = true := by
    rcases hclass with hc | hc <;> exact (isA_iff_of_builtin hc).mpr (by decide)
  have hstr : w.isA (.cls k) .str = false := by
    rcases hclass with hc | hc <;>
      exact Bool.eq_false_iff.mpr fun hs => absurd ((isA_iff_of_builtin hc).mp hs) (by decide)
  rw [resolve_of_honest h.isHonest hstr, htype]
  rfl

end World

/-! ### Verdicts -/

/-- The specification of a final method. -/
def Spec.finalNamed (name : String) (h : Text.isIdentifier name.toList = true) : Spec where
  name := name
  isFinal := some true
  isIdentifier_name := h
  consistent := rfl

theorem Spec.accepts_finalNamed {name : String} (h : Text.isIdentifier name.toList = true)
    (d : Descriptor) :
    (Spec.finalNamed name h).accepts d = (name == d.name && d.traits.isFinal) := by
  simp [Spec.accepts, Spec.finalNamed, flagMeets, accessMeets, Descriptor.traits]

namespace Predicate

variable {w : World} {id name : String} {k : ClassRef} {a : Value}

/-- The verdict on an ordinary class is that on the method that is found there. -/
theorem holds_cls (h : w.IsOrdinary k) (s : Spec) :
    (ofSpec w s none).holds (.cls k) =
      (do
        match ← w.findMethod (.cls k) s.name with
        | none => .ok false
        | some d => .ok (s.accepts d)) :=
  holds_of_resolve h.resolve_cls

variable (w id k) in
/-- The verdict of the predicate for the specification on the class stays the same when the other
class is marked as final. -/
def IsUnmoved (s : Spec) : Prop :=
  (ofSpec (w.markFinal id) s none).holds (.cls k) = (ofSpec w s none).holds (.cls k)

/-- Where the same method is found, the verdicts are the same. -/
theorem isUnmoved_of_findMethod_eq (hk : w.IsOrdinary k) {s : Spec}
    (h : (w.markFinal id).findMethod (.cls k) s.name = w.findMethod (.cls k) s.name) :
    IsUnmoved w id k s := by
  rw [IsUnmoved, holds_cls hk.markFinal, holds_cls hk, h]

/-- Where a method becomes final, the verdict on that changes. -/
theorem isFinal_of_isUnmoved (hk : w.IsOrdinary k) (hi : Text.isIdentifier name.toList = true)
    {d d' : Descriptor} (hf : w.findMethod (.cls k) name = .ok (some d))
    (hf' : (w.markFinal id).findMethod (.cls k) name = .ok (some d'))
    (ht : d'.traits = d.traits.markFinal) (h : IsUnmoved w id k (.finalNamed name hi)) :
    d.traits.isFinal = true := by
  have hname : d.name = name := name_of_findMethod hf
  have hname' : d'.name = name := name_of_findMethod hf'
  have hverdict : Except.ok ((Spec.finalNamed name hi).accepts d') =
      (.ok ((Spec.finalNamed name hi).accepts d) : Except Fault Bool) := by
    rw [IsUnmoved, holds_cls hk.markFinal, holds_cls hk] at h
    rwa [show (Spec.finalNamed name hi).name = name from rfl, hf, hf', ok_bind, ok_bind] at h
  rw [Spec.accepts_finalNamed, Spec.accepts_finalNamed, hname, hname', ht] at hverdict
  simpa [Traits.markFinal] using (Except.ok.inj hverdict).symm

end Predicate

/-! ### Methods that are made final -/

namespace World

variable {w : World} {id name : String} {k : ClassRef} {a : Value}

open Predicate in
/-- **Marking a class makes the methods final that inherit from it, and changes nothing else.** What
is found under a name changes if and only if it is a method that inherits from the class and is not
final already, and if and only if the verdict of some predicate does. All that changes about the
method is that it is final. A method that is no object of a declared class and wraps neither such an
object nor a class, such as a function, inherits from none. -/
theorem findMethod_markFinal_iff (w : World) (id : String) (k : ClassRef) (name : String)
    (hd : (w.class? id).isSome = true) (hk : ∀ c ∈ k :: w.lineage k, w.IsOrdinary c)
    (hn : name = finalMark → .declared id ∉ w.lineage k)
    (hplain : ∀ a, w.firstStored? name (w.lineage k) = some a → w.IsPlainlyMarked a) :
    ((w.markFinal id).findMethod (.cls k) name = w.findMethod (.cls k) name ↔
      ∀ a, w.firstStored? name (w.lineage k) = some a → name ≠ "" → w.IsMethod a →
        w.Inherits id a.target → w.IsFinal a) ∧
    (Text.isIdentifier name.toList = true →
      ((∀ s : Spec, s.name = name → IsUnmoved w id k s) ↔
        (w.markFinal id).findMethod (.cls k) name = w.findMethod (.cls k) name)) ∧
    (∀ a, w.firstStored? name (w.lineage k) = some a → name ≠ "" → w.IsMethod a →
      w.Inherits id a.target → ∃ d d', w.findMethod (.cls k) name = .ok (some d) ∧
        (w.markFinal id).findMethod (.cls k) name = .ok (some d') ∧ d'.name = d.name ∧
        d'.visibility = d.visibility ∧ d'.traits = d.traits.markFinal ∧
        (d.traits.isFinal = true ↔ w.IsFinal a)) ∧
    ∀ a b, w.firstStored? name (w.lineage k) = some a → w.classOf a.target = .builtin b →
      (∀ c, a.target ≠ .cls c) →
      (w.markFinal id).findMethod (.cls k) name = w.findMethod (.cls k) name := by
  have hself : w.IsOrdinary k := hk k List.mem_cons_self
  have hsame : (w.markFinal id).findMethod (.cls k) name = w.findMethod (.cls k) name ↔
      ∀ a, w.firstStored? name (w.lineage k) = some a → name ≠ "" → w.IsMethod a →
        w.Inherits id a.target → w.IsFinal a := by
    cases ha : w.firstStored? name (w.lineage k) with
    | none =>
      refine iff_of_true ?_ nofun
      rw [findMethod_markFinal hk hn, findMethod_of_firstStored hk, ha]
    | some a =>
      rw [findMethod_markFinal_eq_iff hd hk hn ha (hplain a ha)]
      exact ⟨fun h b hb => Option.some.inj hb ▸ h, fun h => h a rfl⟩
  refine ⟨hsame, fun hi => ⟨fun h => hsame.mpr fun a ha hname hm hinherits => ?_, ?_⟩,
    fun a ha hname hm hinherits => ?_, fun a b ha hb hc => ?_⟩
  · obtain ⟨d, d', hf, hf', -, -, ht, hfinal⟩ :=
      findMethod_markFinal_of_inherits hd hk hn ha (hplain a ha) hname hm hinherits
    exact hfinal.mp (isFinal_of_isUnmoved hself hi hf hf' ht (h _ rfl))
  · rintro h s rfl
    exact isUnmoved_of_findMethod_eq hself h
  · exact findMethod_markFinal_of_inherits hd hk hn ha (hplain a ha) hname hm hinherits
  · refine hsame.mpr fun a' ha' _ _ hinherits => ?_
    obtain rfl := Option.some.inj (ha.symm.trans ha')
    exact absurd hinherits (not_inherits_of_builtin hb hc)

end World

/-! ### A final class whose objects can be called -/

/-- The objects of the class `D` can be called. The class `K` has one of them under the name `a`,
the class itself as a static method `b`, and a function `c`. -/
def Declaration.calling : List Declaration :=
  [.plain "D" [("__call__", .function none none none)],
   .plain "K" [("a", .instance (.declared "D") none),
     ("b", .staticMethod (some (.cls (.declared "D"))) none), ("c", .function none none none)]]

/-- The world with these classes. -/
def World.calling : World := (Declaration.calling.foldlM World.declare {}).toOption.getD {}

/-- The same, but the class `D` is final. -/
def Declaration.finalCalling : List Declaration :=
  [.plain "D" [("__call__", .function none none none), (finalMark, .bool true)],
   .plain "K" [("a", .instance (.declared "D") none),
     ("b", .staticMethod (some (.cls (.declared "D"))) none), ("c", .function none none none)]]

/-- The world with these classes. -/
def World.finalCalling : World :=
  (Declaration.finalCalling.foldlM World.declare {}).toOption.getD {}

namespace World

/-- What `K` has under the names `a` and `b` looks for marks along classes that store none. -/
theorem isPlainMark_calling (mark : String) (hm : mark = abstractMark ∨ mark = finalMark) :
    ∀ c ∈ [ClassRef.declared "D", .builtin .object], IsPlainMark (calling.stored? c mark) := by
  intro c hc
  rcases List.mem_pair.mp hc with rfl | rfl <;> rcases hm with rfl | rfl <;> exact nofun

/-- The object of `D` is plain. -/
theorem isPlain_calling : calling.IsPlain (.instance (.declared "D") none) where
  notModule := nofun
  notBound := nofun
  answers := ⟨.object, rfl⟩
  unanswered := rfl
  ofClass := rfl
  ownAbstract := nofun
  inheritedAbstract := isPlainMark_calling abstractMark (Or.inl rfl)
  inheritedFinal := isPlainMark_calling finalMark (Or.inr rfl)

theorem isOrdinary_calling :
    ∀ c ∈ ClassRef.declared "K" :: calling.lineage (.declared "K"), calling.IsOrdinary c := by
  intro c hc
  have hc : c ∈ [ClassRef.declared "K", .declared "K", .builtin .object] := hc
  simp only [List.mem_cons, List.not_mem_nil, or_false] at hc
  rcases hc with rfl | rfl | rfl <;> exact Or.inl rfl

/-- Marking `D` changes what is found in `K` under the names `a` and `b`, but not what is found
under the name `c`. -/
theorem findMethod_markFinal_iff_calling :
    (calling.markFinal "D").findMethod (.cls (.declared "K")) "a" ≠
        calling.findMethod (.cls (.declared "K")) "a" ∧
      (calling.markFinal "D").findMethod (.cls (.declared "K")) "b" ≠
        calling.findMethod (.cls (.declared "K")) "b" ∧
      (calling.markFinal "D").findMethod (.cls (.declared "K")) "c" =
        calling.findMethod (.cls (.declared "K")) "c" := by
  have hobject : calling.firstStored? "a" (calling.lineage (.declared "K")) =
      some (.instance (.declared "D") none) := rfl
  have hclass : calling.firstStored? "b" (calling.lineage (.declared "K")) =
      some (.staticMethod (some (.cls (.declared "D"))) none) := rfl
  have hfunction : calling.firstStored? "c" (calling.lineage (.declared "K")) =
      some (.function none none none) := rfl
  have hplain : calling.IsPlain (.cls (.declared "D")) :=
    IsOrdinary.isPlain (Or.inl rfl) (isPlainMark_calling abstractMark (Or.inl rfl))
      (isPlainMark_calling finalMark (Or.inr rfl))
  obtain ⟨ha, -⟩ := findMethod_markFinal_iff calling "D" (.declared "K") "a" rfl
    isOrdinary_calling (fun h => absurd h (by decide)) fun a ha => by
      obtain rfl := Option.some.inj (hobject.symm.trans ha)
      exact .other isPlain_calling rfl
  obtain ⟨hb, -⟩ := findMethod_markFinal_iff calling "D" (.declared "K") "b" rfl
    isOrdinary_calling (fun h => absurd h (by decide)) fun a ha => by
      obtain rfl := Option.some.inj (hclass.symm.trans ha)
      exact .staticMethod hplain
  obtain ⟨-, -, -, hc⟩ := findMethod_markFinal_iff calling "D" (.declared "K") "c" rfl
    isOrdinary_calling (fun h => absurd h (by decide)) fun a ha => by
      obtain rfl := Option.some.inj (hfunction.symm.trans ha)
      exact .other (isPlain_function nofun) rfl
  refine ⟨fun h => ?_, fun h => ?_, hc _ .function hfunction rfl nofun⟩
  · rcases ha.mp h _ hobject (by decide) (Or.inr ⟨rfl, rfl⟩) ⟨rfl, .here⟩ with hf | ⟨hw, -⟩
    · cases hf
    · cases hw
  · rcases hb.mp h _ hclass (by decide) (Or.inl rfl) ⟨rfl, .here⟩ with hf | ⟨-, f, hf, hm⟩
    · cases hf
    · cases hf
      cases hm

/-- No mark was put on the methods `a` and `b` of `K`. They are final where the class `D` is, and so
the verdict on a final method `a` is another one. -/
theorem final_of_final_class :
    Declaration.calling.foldlM World.declare {} = .ok calling ∧
      Declaration.finalCalling.foldlM World.declare {} = .ok finalCalling ∧
      (∀ name ∈ ["a", "b"], ∃ d d', calling.findMethod (.cls (.declared "K")) name = .ok (some d) ∧
        finalCalling.findMethod (.cls (.declared "K")) name = .ok (some d') ∧
        d.has .final = false ∧ d'.has .final = true) ∧
      Predicate.verdict calling "final function a" (.cls (.declared "K")) = .ok false ∧
      Predicate.verdict finalCalling "final function a" (.cls (.declared "K")) = .ok true := by
  refine ⟨rfl, rfl, fun name hname => ?_, rfl, rfl⟩
  rcases List.mem_pair.mp hname with rfl | rfl <;> exact ⟨_, _, rfl, rfl, rfl, rfl⟩

end World

end Conformance
