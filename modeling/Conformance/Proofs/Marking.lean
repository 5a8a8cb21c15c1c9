import Conformance.Proofs.Marks

/-!
# Marking classes as final

To mark a class as final is to have it store the mark (`World.markFinal`). All else about the world
stays as it is. The mark then is found by all that look for one along this class and do not find one
before (`World.Reaches`): objects of the class do, and so does the class itself. So an object
becomes marked that carries no mark of its own and inherits from the class (`World.Inherits`,
`World.hasMark_markFinal_iff`).
-/

namespace Conformance

/-! ### Members that are put -/

/-- Leaving out the members of one name leaves those of other names where they are. -/
theorem Members.lookup_filter_ne (ms : Members) (name key : String) :
    (ms.filter fun m => m.1 != name).lookup key =
      if key = name then none else ms.lookup key := by
  induction ms with
  | nil => simp
  | cons m ms ih =>
    obtain ⟨n, v⟩ := m
    by_cases hn : n = name
    · subst hn
      rw [List.filter_cons_of_neg (by simp), ih]
      by_cases hk : key = n
      · simp [hk]
      · simp [hk, List.lookup_cons, beq_false_of_ne hk]
    · rw [List.filter_cons_of_pos (by simpa using hn), List.lookup_cons, List.lookup_cons, ih]
      by_cases hk : key = n
      · subst hk
        simp [hn]
      · simp [beq_false_of_ne hk]

/-- A member that is put is found under its name, and all others as before. -/
theorem Members.lookup_put (ms : Members) (name : String) (a : Value) (key : String) :
    (ms.put name a).lookup key = if key = name then some a else ms.lookup key := by
  rw [put, List.lookup_append, lookup_filter_ne]
  by_cases hk : key = name
  · simp [hk]
  · simp [hk, List.lookup_cons, beq_false_of_ne hk]

/-! ### Marking a class -/

/-- The class with the mark for final. -/
def ClassObject.markFinal (o : ClassObject) : ClassObject :=
  { o with members := o.members.put finalMark (.bool true) }

namespace World

/-- The world where the declared class has the mark for final. -/
def markFinal (w : World) (id : String) : World :=
  { w with classes := w.classes.map fun o => if o.id = id then o.markFinal else o }

variable {w : World} {id name : String} {c k : ClassRef} {v a f : Value}

theorem class?_markFinal (x : String) :
    (w.markFinal id).class? x =
      (w.class? x).map fun o => if o.id = id then o.markFinal else o := by
  have hid (o : ClassObject) : (if o.id = id then o.markFinal else o).id = o.id := by
    split <;> rfl
  rw [class?, markFinal, List.find?_map]
  simp only [Function.comp_def, hid]
  rfl

/-- What is not a member of a class stays as it is. -/
theorem map_class?_markFinal {α : Type} (g : ClassObject → α)
    (hg : ∀ o : ClassObject, g o.markFinal = g o) (x : String) :
    ((w.markFinal id).class? x).map g = (w.class? x).map g := by
  rw [class?_markFinal, Option.map_map]
  congr 1
  funext o
  by_cases h : o.id = id
  · simp only [Function.comp_apply, h, if_true, hg]
  · simp only [Function.comp_apply, h, if_false]

@[simp] theorem lineage_markFinal (c : ClassRef) : (w.markFinal id).lineage c = w.lineage c := by
  cases c with
  | builtin => rfl
  | declared x => rw [lineage, lineage, map_class?_markFinal _ fun _ => rfl]

@[simp] theorem metaclass_markFinal (c : ClassRef) :
    (w.markFinal id).metaclass c = w.metaclass c := by
  cases c with
  | builtin => rfl
  | declared x => rw [metaclass, metaclass, map_class?_markFinal _ fun _ => rfl]

@[simp] theorem shortName_markFinal (c : ClassRef) :
    (w.markFinal id).shortName c = w.shortName c := by
  cases c with
  | builtin => rfl
  | declared x => rw [shortName, shortName, map_class?_markFinal _ fun _ => rfl]

@[simp] theorem moduleName_markFinal (c : ClassRef) :
    (w.markFinal id).moduleName c = w.moduleName c := by
  cases c with
  | builtin => rfl
  | declared x => rw [moduleName, moduleName, map_class?_markFinal _ fun _ => rfl]

@[simp] theorem classOf_markFinal (v : Value) : (w.markFinal id).classOf v = w.classOf v := by
  cases v <;> first | rfl | exact metaclass_markFinal _

@[simp] theorem isA_markFinal (v : Value) : (w.markFinal id).isA v = w.isA v := by
  funext b
  simp only [isA, derives, classOf_markFinal, lineage_markFinal]

@[simp] theorem markSources_markFinal (v : Value) :
    (w.markFinal id).markSources v = w.markSources v := by
  cases v <;> simp only [markSources, lineage_markFinal, metaclass_markFinal, classOf_markFinal]

/-! ### What is stored -/

/-- What is stored under other names, or by other classes, stays as it is. -/
theorem stored?_markFinal (h : name = finalMark → c ≠ .declared id) :
    (w.markFinal id).stored? c name = w.stored? c name := by
  cases c with
  | builtin => rfl
  | declared x =>
    have hmembers : ((w.markFinal id).class? x).bind (fun o => o.members.lookup name) =
        (w.class? x).bind fun o => o.members.lookup name := by
      rw [class?_markFinal, Option.bind_map]
      cases ho : w.class? x with
      | none => rfl
      | some o =>
        have hx : o.id = x := by simpa using List.find?_some ho
        by_cases hid : o.id = id
        · have hname : name ≠ finalMark := fun hn => h hn (by rw [← hx, hid])
          simp [hid, ClassObject.markFinal, Members.lookup_put, hname]
        · simp [hid]
    rw [stored?, stored?, hmembers]
    rfl

/-- A class that is marked stores the mark. -/
theorem stored?_markFinal_self (hd : (w.class? id).isSome = true) :
    (w.markFinal id).stored? (.declared id) finalMark = some (.bool true) := by
  obtain ⟨o, ho⟩ := Option.isSome_iff_exists.mp hd
  have hid : o.id = id := by simpa using List.find?_some ho
  have hput : o.markFinal.members.lookup finalMark = some (.bool true) := by
    rw [ClassObject.markFinal, Members.lookup_put, if_pos rfl]
  simp only [stored?, class?_markFinal, ho, Option.map_some, hid, if_true, Option.bind_some, hput,
    Option.some_or]

theorem lookup?_markFinal_of_ne (hn : name ≠ finalMark) (cs : List ClassRef) :
    (w.markFinal id).lookup? cs name = w.lookup? cs name := by
  simp only [lookup?, stored?_markFinal fun h => absurd h hn]

theorem classAttribute?_markFinal (hn : name ≠ finalMark) (v : Value) :
    (w.markFinal id).classAttribute? v name = w.classAttribute? v name := by
  simp only [classAttribute?, classOf_markFinal, lineage_markFinal, lookup?_markFinal_of_ne hn]

theorem isCallable_markFinal (v : Value) : (w.markFinal id).isCallable v = w.isCallable v := by
  simp only [isCallable, classAttribute?_markFinal (by decide : "__call__" ≠ finalMark)]

/-! ### What is inherited -/

variable (w id) in
/-- Looking for a mark along the classes comes to the given class before it comes to one that stores
a mark. -/
inductive Reaches : List ClassRef → Prop where
  /-- The class is the first one. -/
  | here {cs : List ClassRef} : Reaches (.declared id :: cs)
  /-- The first class stores no mark. -/
  | later {c : ClassRef} {cs : List ClassRef} : w.stored? c finalMark = none → Reaches cs →
      Reaches (c :: cs)

theorem lookup?_markFinal_of_reaches (hd : (w.class? id).isSome = true) {cs : List ClassRef}
    (h : w.Reaches id cs) : (w.markFinal id).lookup? cs finalMark = some (.bool true) := by
  induction h with
  | here => rw [lookup?, List.findSome?_cons, stored?_markFinal_self hd]
  | @later c cs hc _ ih =>
    by_cases hid : c = .declared id
    · rw [lookup?, List.findSome?_cons, hid, stored?_markFinal_self hd]
    · rw [lookup?, List.findSome?_cons, stored?_markFinal fun _ => hid, hc]
      exact ih

theorem lookup?_markFinal_of_not_reaches {cs : List ClassRef} (h : ¬ w.Reaches id cs) :
    (w.markFinal id).lookup? cs finalMark = w.lookup? cs finalMark := by
  induction cs with
  | nil => rfl
  | cons c cs ih =>
    have hid : c ≠ .declared id := fun hc => h (hc ▸ .here)
    rw [lookup?, lookup?, List.findSome?_cons, List.findSome?_cons,
      stored?_markFinal fun _ => hid]
    cases hs : w.stored? c finalMark with
    | some m => rfl
    | none => exact ih fun hr => h (.later hs hr)

/-- Built-in classes do not lead to a declared one. -/
theorem not_reaches_builtin (bs : List Builtin) : ¬ w.Reaches id (bs.map .builtin) := by
  induction bs with
  | nil => nofun
  | cons b bs ih =>
    intro h
    cases h with
    | later _ h => exact ih h

variable (w id v) in
/-- The object carries no mark for final itself, and looking for one comes to the class. -/
def Inherits : Prop := v.ownMark? finalMark = none ∧ w.Reaches id (w.markSources v)

/-- By marking a class, the objects are marked that inherit from it. -/
theorem hasMark_markFinal_iff (hd : (w.class? id).isSome = true) (v : Value) :
    (w.markFinal id).hasMark v finalMark = true ↔
      w.hasMark v finalMark = true ∨ w.Inherits id v := by
  rw [hasMark, hasMark, markOf?, markOf?, markSources_markFinal, Inherits]
  cases v.ownMark? finalMark with
  | some m => simp
  | none =>
    by_cases hr : w.Reaches id (w.markSources v)
    · rw [lookup?_markFinal_of_reaches hd hr]
      exact iff_of_true rfl (Or.inr ⟨rfl, hr⟩)
    · rw [lookup?_markFinal_of_not_reaches hr]
      simp [hr]

theorem hasMark_markFinal_abstract (v : Value) :
    (w.markFinal id).hasMark v abstractMark = w.hasMark v abstractMark := by
  rw [hasMark, hasMark, markOf?, markOf?, markSources_markFinal,
    lookup?_markFinal_of_ne (by decide)]

/-! ### Plain objects stay plain -/

theorem special_markFinal (hn : name ≠ finalMark) (v : Value) :
    (w.markFinal id).special v name = w.special v name := by
  simp only [special, classAttribute?_markFinal hn]

theorem IsUnhooked.markFinal (h : w.IsUnhooked v) : (w.markFinal id).IsUnhooked v where
  notModule := h.notModule
  notBound := h.notBound
  answers := by
    rw [special_markFinal (by decide)]
    exact h.answers
  unanswered := (classAttribute?_markFinal (by decide) v).trans h.unanswered
  ofClass := (classAttribute?_markFinal (by decide) v).trans h.ofClass

theorem InheritsPlainly.markFinal {mark : String} (hd : (w.class? id).isSome = true)
    (h : w.InheritsPlainly v mark) : (w.markFinal id).InheritsPlainly v mark := by
  intro c hc
  rw [markSources_markFinal] at hc
  by_cases hself : mark = finalMark ∧ c = .declared id
  · obtain ⟨rfl, rfl⟩ := hself
    rw [stored?_markFinal_self hd]
    exact fun m hm => ⟨true, (Option.some.inj hm).symm⟩
  · rw [stored?_markFinal fun hm hid => hself ⟨hm, hid⟩]
    exact h c hc

theorem IsPlain.markFinal (hd : (w.class? id).isSome = true) (h : w.IsPlain v) :
    (w.markFinal id).IsPlain v where
  toIsUnhooked := h.toIsUnhooked.markFinal
  ownAbstract := h.ownAbstract
  inheritedAbstract := h.inheritedAbstract.markFinal hd
  inheritedFinal := h.inheritedFinal.markFinal hd

theorem IsPlainlyMarked.markFinal (hd : (w.class? id).isSome = true) (h : w.IsPlainlyMarked a) :
    (w.markFinal id).IsPlainlyMarked a := by
  cases h with
  | staticMethod h => exact .staticMethod (h.markFinal hd)
  | classMethod h => exact .classMethod (h.markFinal hd)
  | other h hw => exact .other (h.markFinal hd) ((isA_markFinal a).symm ▸ hw)

theorem IsOrdinary.markFinal (h : w.IsOrdinary k) : (w.markFinal id).IsOrdinary k := by
  rw [IsOrdinary, metaclass_markFinal, lineage_markFinal, moduleName_markFinal,
    lookup?_markFinal_of_ne (by decide)]
  exact h

end World

end Conformance
