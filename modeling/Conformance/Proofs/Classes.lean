import Conformance.Resolver
import Conformance.Proofs.Outcome

/-!
# Ordinary classes

A class answers what its metaclass has for it, so a declared metaclass may have it say anything. An
ordinary class (`World.IsOrdinary`) is an object of one of the built-in classes of classes. It tells
its lineage, its namespace and its names as they are, whatever its own members are called, so that
looking for a name comes to the first class of its lineage that stores something under it
(`World.definitionAmong?_of_ordinary`).

An object is honest (`World.IsHonest`) if it answers its own class to the name of its class. What an
honest object belongs to is decided by its class alone (`World.isInstance_of_honest`). To tell
whether it belongs to some given classes, it is enough that it does not pass itself off as an object
of one of these (`World.IsTruthful.isInstance`).
-/

namespace Conformance

namespace World

variable (w : World)

/-- The class is an object of the class of classes, or of the one of classes with abstract methods
and stores the name of its module. -/
def IsOrdinary (k : ClassRef) : Prop :=
  w.metaclass k = .builtin .type ∨ w.metaclass k = .builtin .abcMeta ∧
    w.lookup? (w.lineage k) "__module__" = some (.str (w.moduleName k))

/-- The object answers its own class to the name of its class. -/
def IsHonest (v : Value) : Prop := w.read v "__class__" = .ok (.cls (w.classOf v))

/-- The object passes itself off as an object of none of the built-in classes but those that its own
class is or is derived from. -/
def IsTruthful (v : Value) (bs : List Builtin) : Prop :=
  ∃ r, claimedClass? w.evaluator v = .ok r ∧
    ∀ c, r = some c → ∀ b ∈ bs, w.derives c b = true → w.isA v b = true

/-- What the first of the classes that stores something under a name stores there; a private name
may also be stored mangled. -/
def firstStored? (name : String) (cs : List ClassRef) : Option Value :=
  cs.findSome? fun c => (w.stored? c name).or <|
    if Visibility.ofName name = .priv then w.stored? c (mangle (w.shortName c) name) else none

/-- The name of a class with its module and the names of the classes around it; a class of the
module `builtins` goes without the module. -/
def fullQualname (k : ClassRef) : String :=
  if w.moduleName k = "builtins" then w.qualname k else w.moduleName k ++ "." ++ w.qualname k

variable {w} {k : ClassRef} {v : Value} {name : String}

/-- A built-in class is ordinary. -/
theorem isOrdinary_builtin (b : Builtin) : w.IsOrdinary (.builtin b) := Or.inl rfl

/-- An object whose class has no methods of its own for names answers as its built-in class has
it. -/
theorem read_of_plain {b : Builtin} (hfirst : w.special v "__getattribute__" = .builtin b)
    (hlast : w.classAttribute? v "__getattr__" = none) :
    w.read v name = w.readBuiltin (w.evaluatorWithin 399) v name := by
  change w.readWith (w.evaluatorWithin 399) v name = _
  simp only [readWith, readFirst, hfirst, hlast]
  cases w.readBuiltin (w.evaluatorWithin 399) v name <;> rfl

/-! ### What an ordinary class answers -/

/-- The metaclass of an ordinary class has for it what one of two built-in classes has. -/
theorem IsOrdinary.classAttribute? (h : w.IsOrdinary k) {r : Option Value}
    (ht : w.lookup? [.builtin .type, .builtin .object] name = r)
    (ha : w.lookup? [.builtin .abcMeta, .builtin .type, .builtin .object] name = r) :
    w.classAttribute? (.cls k) name = r := by
  rcases h with h | ⟨h, -⟩
  · rw [World.classAttribute?, classOf, h]
    exact ht
  · rw [World.classAttribute?, classOf, h]
    exact ha

/-- An ordinary class answers to a name as classes do. -/
theorem IsOrdinary.read (h : w.IsOrdinary k) :
    w.read (.cls k) name = w.readClass (w.evaluatorWithin 399) k name := by
  have hfirst : w.special (.cls k) "__getattribute__" = .builtin .type := by
    rw [special, h.classAttribute? rfl rfl]
    rfl
  exact read_of_plain hfirst (h.classAttribute? rfl rfl)

/-- What the metaclass computes for a name comes before what the class stores there. -/
theorem IsOrdinary.read_of_classAttribute? (h : w.IsOrdinary k) (d : Value)
    (hd : w.classAttribute? (.cls k) name = some d)
    (hc : (w.isBinding d && w.isControlling d) = true) :
    w.read (.cls k) name =
      w.bindWith (w.evaluatorWithin 398) d (some (.cls k)) (w.metaclass k) := by
  rw [h.read, readClass, hd]
  cases w.lookup? (w.lineage k) name with
  | none => rfl
  | some a =>
    simp only [hc, if_true]
    rfl

/-- An ordinary class tells its lineage. -/
theorem IsOrdinary.read_mro (h : w.IsOrdinary k) :
    w.read (.cls k) "__mro__" = .ok (.tuple ((w.lineage k).map .cls)) :=
  h.read_of_classAttribute? (.member (.builtin .type) "__mro__" (.field .tuple))
    (h.classAttribute? rfl rfl) rfl

theorem IsOrdinary.read_dict (h : w.IsOrdinary k) :
    w.read (.cls k) "__dict__" = .ok (.namespaceView k) :=
  h.read_of_classAttribute? (.member (.builtin .type) "__dict__" (.computed .namespaceView))
    (h.classAttribute? rfl rfl) rfl

theorem IsOrdinary.read_name (h : w.IsOrdinary k) :
    w.read (.cls k) "__name__" = .ok (.str (w.shortName k)) :=
  h.read_of_classAttribute? (.member (.builtin .type) "__name__" (.computed .str))
    (h.classAttribute? rfl rfl) rfl

theorem IsOrdinary.read_qualname (h : w.IsOrdinary k) :
    w.read (.cls k) "__qualname__" = .ok (.str (w.qualname k)) :=
  h.read_of_classAttribute? (.member (.builtin .type) "__qualname__" (.computed .str))
    (h.classAttribute? rfl rfl) rfl

theorem IsOrdinary.read_module (h : w.IsOrdinary k) :
    w.read (.cls k) "__module__" = .ok (.str (w.moduleName k)) := by
  rcases h with ht | ⟨ha, hm⟩
  · have hd : w.classAttribute? (.cls k) "__module__" =
        some (.member (.builtin .type) "__module__" (.computed .str)) := by
      rw [World.classAttribute?, classOf, ht]
      rfl
    exact IsOrdinary.read_of_classAttribute? (Or.inl ht) _ hd rfl
  · have hd : w.classAttribute? (.cls k) "__module__" = some (.unknown .str) := by
      rw [World.classAttribute?, classOf, ha]
      rfl
    rw [IsOrdinary.read (Or.inr ⟨ha, hm⟩), readClass, hd, hm]
    rfl

/-- An ordinary class is honest. -/
theorem IsOrdinary.isHonest (h : w.IsOrdinary k) : w.IsHonest (.cls k) :=
  h.read_of_classAttribute? (.member (.builtin .object) "__class__" (.computed .type))
    (h.classAttribute? rfl rfl) rfl

/-! ### Looking along a lineage -/

theorem IsOrdinary.ancestors (h : w.IsOrdinary k) :
    w.ancestors (.cls k) = .ok ((w.lineage k).map .cls) := by
  rw [World.ancestors, h.read_mro]
  rfl

theorem IsOrdinary.namespaceOf (h : w.IsOrdinary k) :
    w.namespaceOf (.cls k) = .ok (.namespaceView k) := by
  have hd : w.evaluator.readIfAny (.cls k) "__dict__" = .ok (some (.namespaceView k)) :=
    Outcome.orMissing_eq_some_iff.mpr h.read_dict
  rw [World.namespaceOf, hd]
  rfl

/-- An object that tells its name in a text stores private names under this name. -/
theorem mangled_of_called {called : String} (h : w.read v "__name__" = .ok (.str called))
    (name : String) : w.mangled v name = .ok (mangle called name) := by
  rw [World.mangled, h]
  rfl

theorem IsOrdinary.mangled (h : w.IsOrdinary k) (name : String) :
    w.mangled (.cls k) name = .ok (mangle (w.shortName k) name) :=
  mangled_of_called h.read_name name

/-- The namespace of a class has the names under which the class stores something. -/
theorem contains_namespaceView (name : String) :
    w.contains w.evaluator (.namespaceView k) name = .ok (w.stored? k name).isSome := rfl

theorem item_namespaceView {a : Value} (h : w.stored? k name = some a) :
    w.item w.evaluator (.namespaceView k) (.str name) = .ok a := by
  change w.contentItem (.namespaceView k) (w.typeName (.namespaceView k)) (.str name) = _
  simp only [contentItem, h]

/-- What an ordinary class has under a name is what it stores there. -/
theorem IsOrdinary.ownDefinition? (h : w.IsOrdinary k) (name : String) :
    w.ownDefinition? (.cls k) name = .ok ((w.stored? k name).or <|
      if Visibility.ofName name = .priv then w.stored? k (mangle (w.shortName k) name)
      else none) := by
  simp only [World.ownDefinition?, h.namespaceOf, ok_bind, contains_namespaceView]
  cases hs : w.stored? k name with
  | some a =>
    simp only [Option.isSome_some, if_true, item_namespaceView hs]
    rfl
  | none =>
    simp only [Option.isSome_none, Bool.false_eq_true, if_false, Option.none_or]
    by_cases hp : Visibility.ofName name = .priv
    · simp only [hp, if_true, h.mangled, ok_bind]
      cases hm : w.stored? k (mangle (w.shortName k) name) with
      | some a =>
        simp only [Option.isSome_some, if_true, item_namespaceView hm]
        rfl
      | none => rfl
    · simp only [hp, if_false]
      rfl

/-- Looking along ordinary classes finds what is stored first. -/
theorem definitionAmong?_of_ordinary {cs : List ClassRef} (h : ∀ c ∈ cs, w.IsOrdinary c)
    (name : String) : w.definitionAmong? name (cs.map .cls) = .ok (w.firstStored? name cs) := by
  induction cs with
  | nil => rfl
  | cons c cs ih =>
    have hc := (h c List.mem_cons_self).ownDefinition? name
    have hcs := ih fun d hd => h d (List.mem_cons_of_mem c hd)
    rw [List.map_cons, definitionAmong?, hc, ok_bind, hcs]
    simp only [firstStored?, List.findSome?_cons]
    cases (w.stored? c name).or _ <;> rfl

/-! ### Names -/

/-- Texts are equal where they are the same. -/
theorem equal_str (a b : String) : w.equal w.evaluator (.str a) (.str b) = .ok (a == b) := by
  have hc (x y : String) : w.comparison? w.evaluator (.str x) (.str y) =
      .ok (if x == y then some (.bool true) else none) := by
    have he : Value.equals (.str x) (.str y) = (x == y) := by simp only [Value.equals, Value.core]
    rw [← he]
    rfl
  have hclass : w.classOf (.str a) = w.classOf (.str b) := rfl
  simp only [equal, hc, hclass, ne_eq, not_true_eq_false, false_and, if_false]
  by_cases h : a = b
  · simp only [h, beq_self_eq_true, if_true]
    rfl
  · have hba : (b == a) = false := beq_false_of_ne (Ne.symm h)
    simp only [beq_false_of_ne h, hba, Bool.false_eq_true, if_false]
    rfl

/-- An ordinary class tells its name. -/
theorem IsOrdinary.qualifiedText (h : w.IsOrdinary k) :
    w.qualifiedText (.cls k) = .ok (w.fullQualname k) := by
  rw [World.qualifiedText, qualifiedName, h.read_module, ok_bind, equal_str, ok_bind,
    h.read_qualname]
  by_cases hb : w.moduleName k = "builtins"
  · simp only [hb, beq_self_eq_true, if_true, fullQualname]
    rfl
  · simp only [beq_false_of_ne hb, Bool.false_eq_true, if_false, fullQualname, hb]
    rfl

/-! ### Honest objects -/

/-- An object is honest if its class leaves it to the built-in classes to answer to names and to the
name of the class. -/
theorem isHonest_of_plain {b : Builtin} (hfirst : w.special v "__getattribute__" = .builtin b)
    (hclass : w.classAttribute? v "__class__" =
      some (.member (.builtin .object) "__class__" (.computed .type))) : w.IsHonest v := by
  have hobject (own : Option Value) :
      w.readObject (w.evaluatorWithin 399) v own "__class__" = .ok (.cls (w.classOf v)) := by
    unfold readObject
    rw [hclass]
    cases own <;> rfl
  have hread : w.readBuiltin (w.evaluatorWithin 399) v "__class__" = .ok (.cls (w.classOf v)) := by
    unfold readBuiltin
    split
    · next c =>
      unfold readClass
      rw [hclass]
      cases w.lookup? (w.lineage c) "__class__" <;> rfl
    · next m =>
      unfold readModule
      rw [hobject]
    · next f self =>
      unfold readBound
      simp only [hclass]
      rfl
    · exact hobject _
  change w.readWith (w.evaluatorWithin 399) v "__class__" = _
  simp only [readWith, readFirst, hfirst, hread]

/-- An object of a built-in class is honest. -/
theorem isHonest_of_builtin {b : Builtin} (h : w.classOf v = .builtin b) : w.IsHonest v := by
  have hfirst : ∃ b', w.special v "__getattribute__" = .builtin b' := by
    rw [special, classAttribute?, h]
    cases b <;> exact ⟨_, rfl⟩
  obtain ⟨b', hfirst⟩ := hfirst
  refine isHonest_of_plain hfirst ?_
  rw [classAttribute?, h]
  cases b <;> rfl

theorem claimedClass?_of_honest (h : w.IsHonest v) :
    claimedClass? w.evaluator v = .ok (some (w.classOf v)) := by
  have hc : w.evaluator.readIfAny v "__class__" = .ok (some (.cls (w.classOf v))) :=
    Outcome.orMissing_eq_some_iff.mpr h
  rw [claimedClass?, hc]
  rfl

/-- What an object belongs to is decided by its own class and the one that it passes itself off as
an object of, if it answers that. -/
theorem isInstance_of_claimed {r : Option ClassRef} (h : claimedClass? w.evaluator v = .ok r)
    (bs : List Builtin) :
    w.isInstance w.evaluator v bs =
      .ok (bs.any fun b => w.isA v b || r.any fun c => w.derives c b) := by
  have hany (b : Builtin) :
      (r.map fun c => w.derives c b).getD false = r.any fun c => w.derives c b := by
    cases r <;> rfl
  induction bs with
  | nil => rfl
  | cons b bs ih =>
    rw [isInstance, h, ih, ok_bind, hany, List.any_cons]
    cases w.isA v b with
    | true => rfl
    | false => cases r.any fun c => w.derives c b <;> rfl

/-- An object that does not answer what its class is complains when it is asked whether it belongs
to a class that its own is not derived from. -/
theorem isInstance_of_unclaimed {x : Complaint} (h : claimedClass? w.evaluator v = .error x)
    {b : Builtin} (hb : w.isA v b = false) (bs : List Builtin) :
    w.isInstance w.evaluator v (b :: bs) = .error x := by
  rw [isInstance, h, hb]
  rfl

/-- An object that does not pass itself off as what it is not belongs to the classes that its own
class is or is derived from. -/
theorem IsTruthful.isInstance {bs cs : List Builtin} (h : w.IsTruthful v bs) (hcs : cs ⊆ bs) :
    w.isInstance w.evaluator v cs = .ok (cs.any (w.isA v)) := by
  obtain ⟨r, hr, htrue⟩ := h
  rw [isInstance_of_claimed hr, Except.ok.injEq, Bool.eq_iff_iff, List.any_eq_true,
    List.any_eq_true]
  refine exists_congr fun b => and_congr_right fun hb => ?_
  rw [Bool.or_eq_true, or_iff_left_iff_imp, Option.any_eq_true_iff_get]
  rintro ⟨hsome, hd⟩
  exact htrue _ (Option.some_get hsome).symm b (hcs hb) hd

/-- An honest object does not pass itself off as what it is not. -/
theorem IsHonest.isTruthful (h : w.IsHonest v) (bs : List Builtin) : w.IsTruthful v bs := by
  refine ⟨_, claimedClass?_of_honest h, fun c hc b _ hb => ?_⟩
  obtain rfl := Option.some.inj hc
  exact hb

/-- An honest object belongs to the classes that its own class is or is derived from. -/
theorem isInstance_of_honest (h : w.IsHonest v) (bs : List Builtin) :
    w.isInstance w.evaluator v bs = .ok (bs.any (w.isA v)) :=
  (h.isTruthful bs).isInstance (List.Subset.refl bs)

end World

/-- The built-in classes that decide what their objects stand for. -/
def Builtin.decisive : List Builtin := .type :: .str :: Builtin.scalars

namespace World

variable {w : World} {v : Value}

/-- What an object that is no text and does not pass itself off as what it is not stands for:
itself, nothing, or its class. -/
theorem IsTruthful.resolve (h : w.IsTruthful v Builtin.decisive) (hs : w.isA v .str = false) :
    w.resolve v = .ok (if w.isA v .type then some v
      else if Builtin.scalars.any (w.isA v) then none else some (.cls (w.classOf v))) := by
  have hone {b : Builtin} (hb : b ∈ Builtin.decisive) :
      w.isInstance w.evaluator v [b] = .ok (w.isA v b) := by
    rw [h.isInstance (List.cons_subset.mpr ⟨hb, List.nil_subset _⟩)]
    simp
  have hscalars : Builtin.scalars ⊆ Builtin.decisive := by decide
  rw [World.resolve, isClass, hone (by decide), ok_bind, isText, hone (by decide), ok_bind, hs,
    h.isInstance hscalars, ok_bind]
  cases w.isA v .type <;> cases Builtin.scalars.any (w.isA v) <;> rfl

/-- What an honest object stands for that is no text: itself, nothing, or its class. -/
theorem resolve_of_honest (h : w.IsHonest v) (hs : w.isA v .str = false) :
    w.resolve v = .ok (if w.isA v .type then some v
      else if Builtin.scalars.any (w.isA v) then none else some (.cls (w.classOf v))) :=
  (h.isTruthful _).resolve hs

/-- A text stands for the class that it names. -/
theorem resolve_str (text : String) : w.resolve (.str text) = w.importClass? (.str text) := rfl

end World

end Conformance
