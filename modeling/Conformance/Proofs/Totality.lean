import Conformance.Proofs.Explanation
import Conformance.Proofs.Paths
import Conformance.Proofs.Shadowing

/-!
# When matching answers

Looking for a method has few ways to come out, and `World.Looked` lists them. What goes wrong on the
way is a complaint of an object that was asked for something: the checks on a descriptor do not
fail, and what goes wrong on a path only means that the path leads nowhere
(`World.isImportFault_of_importTarget?`).

So a predicate answers and explains itself if and only if all objects that it asks answer
(`Predicate.answers_iff_isExaminable`). Where a subject stands for an ordinary class, these are
the attribute that is found first and what it wraps. An object that only passes itself off as a
class need not answer, as in the world `World.rootless`.
-/

namespace Conformance

/-! ### What modules answer -/

namespace Builtin

/-- What a built-in class may store under a name and wraps nothing. -/
inductive IsPlainMember (b : Builtin) (name : String) : Value → Prop where
  /-- A member of the class that is no place for a value. -/
  | member {kind : MemberKind} : kind ≠ .slot →
      IsPlainMember b name (.member (.builtin b) name kind)
  /-- An object of which only the class is known. -/
  | data {c : Builtin} : IsPlainMember b name (.ofClass c)

theorem isPlainMember_of_attribute? {b : Builtin} {name : String} {d : Value}
    (h : b.attribute? name = some d) (hs : b.members.statics = [])
    (hf : b.members.staticFunctions = []) (hp : b.members.properties = [])
    (hc : b.members.classwide = []) : b.IsPlainMember name d := by
  have hmember {kind : MemberKind} (hk : kind ≠ .slot)
      (h : some (Value.member (.builtin b) name kind) = some d) : b.IsPlainMember name d :=
    Option.some.inj h ▸ .member hk
  simp only [attribute?, hs, hf, hp, hc, List.contains_nil, Bool.false_eq_true, if_false,
    List.lookup_nil, Option.map_none, Option.none_or] at h
  split_ifs at h
  all_goals try exact hmember (by simp) h
  rcases Option.or_eq_some_iff.mp h with h | ⟨-, h⟩
  · obtain ⟨r, -, h⟩ := Option.bind_eq_some_iff.mp h
    exact hmember (by simp) h
  · rcases Option.or_eq_some_iff.mp h with h | ⟨-, h⟩
    · obtain ⟨r, -, h⟩ := Option.bind_eq_some_iff.mp h
      exact hmember (by simp) h
    · obtain ⟨c, -, rfl⟩ := Option.map_eq_some_iff.mp h
      exact .data

end Builtin

namespace World

variable {w : World} {m name : String}

/-- Such a member can be read on a module. -/
theorem exists_bindWith_module (e : Evaluator) {b : Builtin} {d : Value} (cls : ClassRef)
    (h : b.IsPlainMember name d) : ∃ r, w.bindWith e d (some (.module m)) cls = .ok r := by
  have hfact (r : Builtin) : ∃ x, w.fact e (.module m) (.builtin b) name r = .ok x := by
    unfold fact
    split_ifs
    · exact ⟨_, rfl⟩
    · exact ⟨_, rfl⟩
  cases h with
  | @member kind hk =>
    cases kind with
    | slot => exact absurd rfl hk
    | computed r | field r => exact hfact r
    | _ => exact ⟨_, rfl⟩
  | @data c => cases c <;> exact ⟨_, rfl⟩

theorem exists_bind_of_classAttribute? {d : Value} (n : Nat) (cls : ClassRef)
    (h : w.classAttribute? (.module m) name = some d) :
    ∃ r, (w.evaluatorWithin (n + 1)).bind d (some (.module m)) cls = .ok r := by
  have hlookup : w.classAttribute? (.module m) name =
      [ClassRef.builtin .module, .builtin .object].findSome? fun c => w.stored? c name := rfl
  rw [hlookup] at h
  obtain ⟨c, hc, hd⟩ := List.exists_of_findSome?_eq_some h
  rcases List.mem_pair.mp hc with rfl | rfl
  · exact exists_bindWith_module _ cls (Builtin.isPlainMember_of_attribute? hd rfl rfl rfl rfl)
  · exact exists_bindWith_module _ cls (Builtin.isPlainMember_of_attribute? hd rfl rfl rfl rfl)

/-- A module answers to a name, or has nothing under it. -/
theorem readObject_module (n : Nat) (own : Option Value) (name : String) :
    (∃ r, w.readObject (w.evaluatorWithin (n + 1)) (.module m) own name = .ok r) ∨
      ∃ t, w.readObject (w.evaluatorWithin (n + 1)) (.module m) own name =
        .error (.noAttribute t name) := by
  unfold readObject
  cases hd : w.classAttribute? (.module m) name with
  | none =>
    cases own with
    | none => exact Or.inr ⟨_, rfl⟩
    | some a => exact Or.inl ⟨a, rfl⟩
  | some d =>
    have hbind := exists_bind_of_classAttribute? n (w.classOf (.module m)) hd
    cases own with
    | none => exact Or.inl hbind
    | some a =>
      simp only
      split_ifs
      · exact Or.inl hbind
      · exact Or.inl ⟨a, rfl⟩

/-- What is built in can be asked for any name. -/
theorem exists_readIfAny_builtins (name : String) :
    ∃ r, w.evaluator.readIfAny (.module "builtins") name = .ok r := by
  have hread : w.evaluator.read (.module "builtins") name =
      w.readModule (w.evaluatorWithin 399) "builtins" name :=
    read_of_plain (b := .module) rfl rfl
  unfold Evaluator.readIfAny
  rw [hread, readModule]
  rcases readObject_module 398 (w.moduleMember? "builtins" name) name with ⟨r, hr⟩ | ⟨t, hr⟩
  · rw [hr]
    exact ⟨_, rfl⟩
  · rw [hr]
    exact ⟨_, rfl⟩

/-! ### What goes wrong on a path -/

variable {x : Complaint}

theorem isImportFault_of_importAttribute? {moduleName : String} {attributes : List String}
    (h : w.importAttribute? moduleName attributes = .error x) : isImportFault x = false := by
  unfold importAttribute? at h
  split at h
  · cases h
  · split at h
    · cases h
    · cases h
    · split_ifs at h with hx
      obtain rfl := Except.error.inj h
      exact Bool.not_eq_true _ ▸ hx

theorem isImportFault_of_firstImport? {paths : List (String × List String)}
    (h : w.firstImport? paths = .error x) : isImportFault x = false := by
  induction paths with
  | nil => cases h
  | cons path paths ih =>
    obtain ⟨moduleName, attributes⟩ := path
    rcases bind_eq_error_iff.mp h with h | ⟨target, -, h⟩
    · exact isImportFault_of_importAttribute? h
    · cases target with
      | some target => cases h
      | none => exact ih h

/-- What only makes a path lead nowhere is no complaint about the path. -/
theorem isImportFault_of_importTarget? {path : ImportPath} (h : w.importTarget? path = .error x) :
    isImportFault x = false := by
  cases path with
  | colon moduleName attributes => exact isImportFault_of_importAttribute? h
  | bare name =>
    obtain ⟨r, hr⟩ := exists_readIfAny_builtins (w := w) name
    cases hr.symm.trans h
  | dotted components => exact isImportFault_of_firstImport? h

/-- A text is not resolved with a complaint only if something else goes wrong on its path, or what
the path leads to does not answer whether it is a class. -/
theorem complaint_of_resolve_str {text : String} (h : w.resolve (.str text) = .error x) :
    isImportFault x = false ∨ ∃ target, w.importTarget? (.ofString text) = .ok (some target) ∧
      w.isClass w.evaluator target = .error x := by
  rw [resolve_str, importClass?, pathOf?, ok_bind] at h
  rcases bind_eq_error_iff.mp h with h | ⟨target, ht, h⟩
  · exact Or.inl (isImportFault_of_importTarget? h)
  · cases target with
    | none => cases h
    | some target =>
      rcases bind_eq_error_iff.mp h with h | ⟨b, -, h⟩
      · exact Or.inr ⟨target, ht, h⟩
      · cases b <;> cases h

/-! ### Attributes that can be described -/

variable {a v f : Value} {isAbstract isFinal mark : Option Value} {gives : Option String}

/-- The mark is missing, or it is a truth value. -/
def IsPlainMark (mark : Option Value) : Prop := ∀ v, mark = some v → ∃ b, v = .bool b

/-- The attribute is a function, as it is or wrapped, with a plain mark for abstract, or something
honest that is no method. -/
inductive IsPlainAttribute (w : World) : Value → Prop where
  /-- A function. -/
  | function {gives : Option String} {isAbstract isFinal : Option Value} :
      IsPlainMark isAbstract → IsPlainAttribute w (.function gives isAbstract isFinal)
  /-- A static method. -/
  | staticMethod {gives : Option String} {isAbstract isFinal mark : Option Value} :
      IsPlainMark isAbstract →
      IsPlainAttribute w (.staticMethod (some (.function gives isAbstract isFinal)) mark)
  /-- A class-wide method. -/
  | classMethod {gives : Option String} {isAbstract isFinal mark : Option Value} :
      IsPlainMark isAbstract →
      IsPlainAttribute w (.classMethod (some (.function gives isAbstract isFinal)) mark)
  /-- A class, or something that cannot be called, which wraps nothing. -/
  | other {a : Value} : w.IsHonest a → [Builtin.staticMethod, .classMethod].any (w.isA a) = false →
      w.isA a .type = true ∨ w.isCallable a = false → IsPlainAttribute w a

theorem exists_isMarkedFinal (h : ∃ r, w.evaluator.readIfAny v finalMark = .ok r) :
    ∃ b, w.isMarkedFinal v = .ok b := by
  obtain ⟨r, hr⟩ := h
  rw [isMarkedFinal, hr, ok_bind]
  split <;> exact ⟨_, rfl⟩

theorem exists_isEitherFinal (ha : ∃ r, w.evaluator.readIfAny a finalMark = .ok r)
    (hf : ∃ r, w.evaluator.readIfAny f finalMark = .ok r) : ∃ b, w.isEitherFinal a f = .ok b := by
  obtain ⟨b, hb⟩ := exists_isMarkedFinal ha
  rw [isEitherFinal, hb]
  cases b with
  | true => exact ⟨true, rfl⟩
  | false => exact exists_isMarkedFinal hf

/-- A function answers what it is marked with. -/
theorem readIfAny_function {name : String} (hn : name = abstractMark ∨ name = finalMark) :
    w.evaluator.readIfAny (.function gives isAbstract isFinal) name =
      .ok (mark? isAbstract isFinal name) := by
  have hread : w.evaluator.read (.function gives isAbstract isFinal) name = _ :=
    read_of_plain (b := .object) rfl rfl
  rw [Evaluator.readIfAny, hread]
  rcases hn with rfl | rfl
  · cases isAbstract <;> rfl
  · cases isFinal <;> rfl

/-- A wrapper can be described if it and what it wraps tell their marks. -/
theorem isDescribable_of_wrapper (h : w.IsHonest a)
    (hw : [Builtin.staticMethod, .classMethod].any (w.isA a) = true)
    (hf : w.read a "__func__" = .ok f) (hb : ∃ b, w.isAbstract a = .ok b)
    (hm : ∃ r, w.evaluator.readIfAny a finalMark = .ok r)
    (hmf : ∃ r, w.evaluator.readIfAny f finalMark = .ok r) : w.IsDescribable a := by
  obtain ⟨b, hb⟩ := hb
  obtain ⟨c, hc⟩ := exists_isEitherFinal hm hmf
  refine ⟨some ⟨true, b, c⟩, ?_⟩
  rw [traits?, isInstance_of_honest h, hw, ok_bind, if_pos rfl, hf, ok_bind, hb, ok_bind, hc]
  rfl

theorem isDescribable_function (h : IsPlainMark isAbstract) :
    w.IsDescribable (.function gives isAbstract isFinal) := by
  have hhonest : w.IsHonest (.function gives isAbstract isFinal) :=
    isHonest_of_plain (b := .object) rfl rfl
  obtain ⟨b, hb⟩ : ∃ b, w.isAbstract (.function gives isAbstract isFinal) = .ok b := by
    rw [World.isAbstract, isMarkedAbstract, readIfAny_function (Or.inl rfl), ok_bind]
    cases isAbstract with
    | none => exact ⟨false, rfl⟩
    | some v =>
      obtain ⟨b, rfl⟩ := h v rfl
      exact ⟨b, rfl⟩
  obtain ⟨c, hc⟩ : ∃ c, w.isMarkedFinal (.function gives isAbstract isFinal) = .ok c :=
    exists_isMarkedFinal ⟨_, readIfAny_function (Or.inr rfl)⟩
  refine ⟨some ⟨false, b, c⟩, ?_⟩
  rw [traits?, isInstance_of_honest hhonest, ok_bind, isClass, isInstance_of_honest hhonest]
  simp only [hb, hc, ok_bind]
  rfl

/-- What wraps a function is abstract if the function is. -/
theorem exists_isAbstract_wrapper (h : IsPlainMark isAbstract) :
    (∃ b, w.isAbstract (.staticMethod (some (.function gives isAbstract isFinal)) mark) = .ok b) ∧
      ∃ b, w.isAbstract (.classMethod (some (.function gives isAbstract isFinal)) mark) =
        .ok b := by
  cases isAbstract with
  | none => exact ⟨⟨false, rfl⟩, false, rfl⟩
  | some v =>
    obtain ⟨b, rfl⟩ := h v rfl
    exact ⟨⟨b, rfl⟩, b, rfl⟩

/-- A plain attribute can be described. -/
theorem IsPlainAttribute.isDescribable (h : w.IsPlainAttribute a) : w.IsDescribable a := by
  cases h with
  | function h => exact isDescribable_function h
  | @staticMethod _ _ _ mark h =>
    have hm (wrapped : Value) :
        ∃ r, w.evaluator.readIfAny (.staticMethod (some wrapped) mark) finalMark = .ok r :=
      ⟨mark, by cases mark <;> rfl⟩
    exact isDescribable_of_wrapper (isHonest_of_plain (b := .object) rfl rfl) rfl rfl
      (exists_isAbstract_wrapper h).1 (hm _) ⟨_, readIfAny_function (Or.inr rfl)⟩
  | @classMethod _ _ _ mark h =>
    have hm (wrapped : Value) :
        ∃ r, w.evaluator.readIfAny (.classMethod (some wrapped) mark) finalMark = .ok r :=
      ⟨mark, by cases mark <;> rfl⟩
    exact isDescribable_of_wrapper (isHonest_of_plain (b := .object) rfl rfl) rfl rfl
      (exists_isAbstract_wrapper h).2 (hm _) ⟨_, readIfAny_function (Or.inr rfl)⟩
  | other h hw hno =>
    have hnone : w.IsNoMethod a := ⟨hw, hno⟩
    exact ⟨none, hnone.traits?_eq_none_iff.mpr (h.isCandid hw)⟩

/-! ### Looking for a method -/

variable {c : Value}

/-- How looking for a method under a name comes out. -/
inductive Looked (w : World) (c : Value) (name : String) :
    Except Fault (Option Descriptor) → Prop where
  /-- The class does not answer its lineage. -/
  | noLineage {x : Complaint} : w.ancestors c = .error x → Looked w c name (.error (.complaint x))
  /-- A class in the lineage does not answer what it has. -/
  | unsearchable {owners : List Value} {x : Complaint} : w.ancestors c = .ok owners →
      w.definitionAmong? name owners = .error x → Looked w c name (.error (.complaint x))
  /-- None of the classes has anything under the name. -/
  | nothing {owners : List Value} : w.ancestors c = .ok owners → w.NoneKept name owners →
      Looked w c name (.ok none)
  /-- What is there first does not answer what it is. -/
  | undescribed {owners : List Value} {a : Value} {x : Complaint} : w.ancestors c = .ok owners →
      w.FirstKept name owners a → w.traits? a = .error x → Looked w c name (.error (.complaint x))
  /-- What is there first is no method. -/
  | noMethod {owners : List Value} {a : Value} : w.ancestors c = .ok owners →
      w.FirstKept name owners a → w.traits? a = .ok none → Looked w c name (.ok none)
  /-- What is there first is a method. -/
  | method {owners : List Value} {a : Value} {t : Traits} {d : Descriptor} :
      w.ancestors c = .ok owners → w.FirstKept name owners a → w.traits? a = .ok (some t) →
      Descriptor.create name (.ofName name) t = .ok d → Looked w c name (.ok (some d))

/-- Looking for a method under a name comes out in one of these ways. -/
theorem looked_findMethod (hn : name ≠ "") : w.Looked c name (w.findMethod c name) := by
  cases ho : w.ancestors c with
  | error x =>
    rw [findMethod, ho]
    exact .noLineage ho
  | ok owners =>
    cases hd : w.definitionAmong? name owners with
    | error x =>
      rw [findMethod_of_ancestors ho, findMethodAmong, hd]
      exact .unsearchable ho hd
    | ok found =>
      cases found with
      | none =>
        rw [findMethod_of_ancestors ho, findMethodAmong, hd]
        exact .nothing ho (definitionAmong?_eq_none_iff.mp hd)
      | some a =>
        have ha := definitionAmong?_eq_some_iff.mp hd
        rw [findMethod_of_firstKept ho ha]
        cases ht : w.traits? a with
        | error x =>
          rw [describe, ht]
          exact .undescribed ho ha ht
        | ok r =>
          cases r with
          | none =>
            rw [describe, ht]
            exact .noMethod ho ha ht
          | some t =>
            obtain ⟨d, hcreate⟩ := Descriptor.exists_create (v := .ofName name) (t := t) hn
            rw [describe_eq_some_iff.mpr ⟨t, ht, hcreate⟩]
            exact .method ho ha ht hcreate

/-- Looking for a method under the name, everything that is asked answers. -/
def IsSearchable (w : World) (c : Value) (name : String) : Prop :=
  ∃ owners, w.ancestors c = .ok owners ∧
    (w.NoneKept name owners ∨ ∃ a, w.FirstKept name owners a ∧ w.IsDescribable a)

/-- There is an answer to what method a class has if and only if everything that is asked for it
answers. -/
theorem exists_findMethod_iff (hn : name ≠ "") :
    (∃ r, w.findMethod c name = .ok r) ↔ w.IsSearchable c name := by
  constructor
  · rintro ⟨r, hr⟩
    have h : w.Looked c name (.ok r) := hr ▸ looked_findMethod hn
    cases h with
    | nothing ho hk => exact ⟨_, ho, Or.inl hk⟩
    | noMethod ho ha ht => exact ⟨_, ho, Or.inr ⟨_, ha, _, ht⟩⟩
    | method ho ha ht _ => exact ⟨_, ho, Or.inr ⟨_, ha, _, ht⟩⟩
  · rintro ⟨owners, ho, hk | ⟨a, ha, t, ht⟩⟩
    · have hd := definitionAmong?_eq_none_iff.mpr hk
      exact ⟨none, by rw [findMethod_of_ancestors ho, findMethodAmong, hd]; rfl⟩
    · rw [findMethod_of_firstKept ho ha]
      cases t with
      | none => exact ⟨none, by rw [describe, ht]; rfl⟩
      | some t =>
        obtain ⟨d, hd⟩ := Descriptor.exists_create (v := .ofName name) (t := t) hn
        exact ⟨some d, describe_eq_some_iff.mpr ⟨t, ht, hd⟩⟩

/-- Looking for a method fails with complaints only. -/
theorem exists_complaint_of_findMethod (hn : name ≠ "") {f : Fault}
    (h : w.findMethod c name = .error f) : ∃ x, f = .complaint x := by
  have h : w.Looked c name (.error f) := h ▸ looked_findMethod hn
  cases h <;> exact ⟨_, rfl⟩

/-- An ordinary class with ordinary ancestors answers everything that is asked for a method, if what
it stores first does. -/
theorem IsOrdinary.isSearchable_iff {k : ClassRef} (h : w.IsOrdinary k)
    (hl : ∀ c ∈ w.lineage k, w.IsOrdinary c) :
    w.IsSearchable (.cls k) name ↔
      ∀ a, w.firstStored? name (w.lineage k) = some a → w.IsDescribable a := by
  have hd := definitionAmong?_of_ordinary hl name
  rw [IsSearchable, h.ancestors]
  simp only [Except.ok.injEq, exists_eq_left', ← definitionAmong?_eq_none_iff,
    ← definitionAmong?_eq_some_iff, hd]
  cases w.firstStored? name (w.lineage k) <;> simp

/-- All objects that are asked for a method of the subject, and for an explanation, answer. -/
inductive IsExaminable (w : World) (name : String) (subject : Value) : Prop where
  /-- The subject stands for no class. -/
  | unresolved : w.resolve subject = .ok none → IsExaminable w name subject
  /-- The class answers what is asked for the method, and its name. -/
  | resolved {c : Value} {className : String} : w.resolve subject = .ok (some c) →
      w.IsSearchable c name → w.qualifiedText c = .ok className → IsExaminable w name subject

end World

/-! ### Predicates -/

namespace Predicate

variable {w : World} {s : Spec} {subject : Value} {f : Fault}

variable (w s subject) in
/-- The predicate answers on the subject and explains the answer. -/
def Answers : Prop :=
  (∃ b, (ofSpec w s none).holds subject = .ok b) ∧
    ∃ t, (ofSpec w s none).explain w subject = .ok t

/-- A predicate answers and explains itself if and only if there is an explanation. -/
theorem answers_iff_explained : Answers w s subject ↔ ∃ b t, Explained w s subject b t := by
  constructor
  · rintro ⟨-, t, ht⟩
    obtain ⟨b, hb⟩ := explain_eq_ok_iff.mp ht
    exact ⟨b, t, hb⟩
  · rintro ⟨b, t, h⟩
    exact ⟨⟨b, h.holds⟩, t, explain_eq_ok_iff.mpr ⟨b, h⟩⟩

theorem answers_iff_isExaminable : Answers w s subject ↔ w.IsExaminable s.name subject := by
  rw [answers_iff_explained]
  constructor
  · rintro ⟨b, t, h⟩
    cases h with
    | unresolved hr => exact .unresolved hr
    | missing hr hm hq | found hr hm hq =>
      exact .resolved hr ((World.exists_findMethod_iff s.name_ne_empty).mp ⟨_, hm⟩) hq
  · rintro (hr | ⟨hr, hc, hq⟩)
    · exact ⟨_, _, .unresolved hr⟩
    · obtain ⟨r, hm⟩ := (World.exists_findMethod_iff s.name_ne_empty).mpr hc
      cases r with
      | none => exact ⟨_, _, .missing hr hm hq⟩
      | some d => exact ⟨_, _, .found hr hm hq⟩

/-- Of a subject that stands for an ordinary class with ordinary ancestors, a predicate answers and
explains itself if and only if what the class stores first can be described. -/
theorem answers_iff_of_ordinary {k : ClassRef} (hr : w.resolve subject = .ok (some (.cls k)))
    (hk : w.IsOrdinary k) (hl : ∀ c ∈ w.lineage k, w.IsOrdinary c) :
    Answers w s subject ↔
      ∀ a, w.firstStored? s.name (w.lineage k) = some a → w.IsDescribable a := by
  rw [answers_iff_isExaminable, ← hk.isSearchable_iff hl]
  constructor
  · rintro (hr' | ⟨hr', hc, -⟩)
    · cases hr.symm.trans hr'
    · obtain rfl := Option.some.inj (answer_unique hr hr')
      exact hc
  · intro hc
    exact .resolved hr hc hk.qualifiedText

/-- Where a predicate does not answer, the subject or the class that it stands for complains. -/
theorem complaint_of_holds (h : (ofSpec w s none).holds subject = .error f) :
    ∃ x, f = .complaint x ∧ (w.resolve subject = .error x ∨
      ∃ c, w.resolve subject = .ok (some c) ∧ w.Looked c s.name (.error (.complaint x))) := by
  cases hr : w.resolve subject with
  | error x =>
    have hc : (ofSpec w s none).resolver.resolve subject = .error (.complaint x) :=
      Outcome.orFault_eq_error_iff.mpr ⟨x, hr, rfl⟩
    rw [holds, Predicate.findMethod, hc] at h
    exact ⟨x, (Except.error.inj h).symm, Or.inl rfl⟩
  | ok r =>
    cases r with
    | none => cases (Explained.unresolved hr).holds.symm.trans h
    | some c =>
      rw [holds_of_resolve hr] at h
      rcases bind_eq_error_iff.mp h with hm | ⟨found, -, h⟩
      · obtain ⟨x, rfl⟩ := World.exists_complaint_of_findMethod s.name_ne_empty hm
        exact ⟨x, rfl, Or.inr ⟨c, rfl, hm ▸ World.looked_findMethod s.name_ne_empty⟩⟩
      · cases found <;> cases h

/-- Where there is an answer and no explanation, the class complains that is asked for its name. -/
theorem complaint_of_explain {b : Bool} (hb : (ofSpec w s none).holds subject = .ok b)
    (h : (ofSpec w s none).explain w subject = .error f) :
    ∃ c x, w.resolve subject = .ok (some c) ∧ w.qualifiedText c = .error x ∧ f = .complaint x := by
  obtain ⟨found, hfound, -⟩ := bind_eq_ok_iff.mp hb
  obtain ⟨r, hr, hm⟩ := bind_eq_ok_iff.mp hfound
  have hr : w.resolve subject = .ok r := Outcome.orFault_eq_ok_iff.mp hr
  cases r with
  | none => cases (explain_eq_ok_iff.mpr ⟨_, .unresolved hr⟩).symm.trans h
  | some c =>
    have hm : w.findMethod c s.name = .ok found := hm
    cases hq : w.qualifiedText c with
    | error x =>
      rw [explain_of_resolve hr, hm, hq] at h
      cases found <;> exact ⟨c, x, hr, hq, (Except.error.inj h).symm⟩
    | ok className =>
      cases found with
      | none => cases (explain_eq_ok_iff.mpr ⟨_, .missing hr hm hq⟩).symm.trans h
      | some d => cases (explain_eq_ok_iff.mpr ⟨_, .found hr hm hq⟩).symm.trans h

/-- **Matching answers** if and only if all objects that it asks do. Of a subject that stands for an
ordinary class with ordinary ancestors, that is so if and only if what is stored first under the
name can be described, as plain attributes can. An honest object that is no text can always be
resolved, and a text unless something else than a missing import, attribute, value or type is in the
way, or what is found does not answer whether it is a class. A descriptor of what is found passes
its checks. So what goes wrong is a complaint of one of the objects, and a subject that stands for
no class, or for one that has no such method, has no method. -/
theorem matching_answers_iff (w : World) (s : Spec) (subject : Value) :
    (Answers w s subject ↔ w.IsExaminable s.name subject) ∧
    (∀ k, w.resolve subject = .ok (some (.cls k)) → w.IsOrdinary k →
      (∀ c ∈ w.lineage k, w.IsOrdinary c) →
      (Answers w s subject ↔
        ∀ a, w.firstStored? s.name (w.lineage k) = some a → w.IsDescribable a) ∧
      ((∀ a, w.firstStored? s.name (w.lineage k) = some a → w.IsPlainAttribute a) →
        Answers w s subject)) ∧
    (w.IsHonest subject → w.isA subject .str = false → ∃ r, w.resolve subject = .ok r) ∧
    (∀ text x, subject = .str text → w.resolve subject = .error x →
      World.isImportFault x = false ∨
        ∃ target, w.importTarget? (.ofString text) = .ok (some target) ∧
          w.isClass w.evaluator target = .error x) ∧
    (∀ v t, ∃ d, Descriptor.create s.name v t = .ok d) ∧
    (∀ f, (ofSpec w s none).holds subject = .error f → ∃ x, f = .complaint x ∧
      (w.resolve subject = .error x ∨
        ∃ c, w.resolve subject = .ok (some c) ∧ w.Looked c s.name (.error (.complaint x)))) ∧
    (∀ b f, (ofSpec w s none).holds subject = .ok b →
      (ofSpec w s none).explain w subject = .error f →
      ∃ c x, w.resolve subject = .ok (some c) ∧ w.qualifiedText c = .error x ∧
        f = .complaint x) ∧
    (w.resolve subject = .ok none → (ofSpec w s none).holds subject = .ok false) ∧
    ∀ c, w.resolve subject = .ok (some c) → w.findMethod c s.name = .ok none →
      (ofSpec w s none).holds subject = .ok false := by
  refine ⟨answers_iff_isExaminable, fun k hr hk hl => ?_, fun hh hs => ?_, ?_,
    fun _ _ => Descriptor.exists_create s.name_ne_empty, fun _ => complaint_of_holds,
    fun _ _ => complaint_of_explain, fun hr => (Explained.unresolved hr).holds,
    fun c hr hm => ?_⟩
  · have hiff := answers_iff_of_ordinary (s := s) hr hk hl
    exact ⟨hiff, fun hp => hiff.mpr fun a ha => (hp a ha).isDescribable⟩
  · exact ⟨_, World.resolve_of_honest hh hs⟩
  · rintro text x rfl hx
    exact World.complaint_of_resolve_str hx
  · rw [holds_of_resolve hr, hm]
    rfl

end Predicate

/-! ### Something without a lineage that passes for a class -/

/-- The objects of the class `P` pass themselves off as classes. -/
def Declaration.rootless : List Declaration :=
  [.plain "P" [("__class__", .cls (.builtin .type))]]

/-- The world with this class. -/
def World.rootless : World := (Declaration.rootless.foldlM World.declare {}).toOption.getD {}

namespace Predicate

/-- An object of `P` is taken for a class, and has no lineage in which a method could be looked
for. -/
theorem complaint_of_rootless :
    Declaration.rootless.foldlM World.declare {} = .ok World.rootless ∧
      World.rootless.read (.instance (.declared "P") none) "__mro__" =
        .error (.noAttribute "P" "__mro__") ∧
      (Complaint.noAttribute "P" "__mro__").isMissing = true ∧
      (ofSpec World.rootless .plain none).holds (.instance (.declared "P") none) =
        .error (.complaint (.noAttribute "P" "__mro__")) ∧
      ¬ Answers World.rootless .plain (.instance (.declared "P") none) := by
  have hholds : (ofSpec World.rootless .plain none).holds (.instance (.declared "P") none) =
      .error (.complaint (.noAttribute "P" "__mro__")) := rfl
  refine ⟨rfl, rfl, rfl, hholds, ?_⟩
  rintro ⟨⟨b, hb⟩, -⟩
  cases hholds.symm.trans hb

end Predicate

end Conformance
