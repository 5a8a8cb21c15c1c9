import Conformance.Predicate
import Conformance.Proofs.Classes

/-!
# What texts do when they are handed over

A text that is an object of a class derived from the class of texts does what the text does that it
holds, if its class leaves that to the class of texts (`World.IsUsual`): it is read as this text, it
counts as true unless it is empty, and it is written as it is. An object that is no text is refused
for one of four reasons (`World.NoText`).
-/

namespace Conformance

namespace World

variable {w : World} {v : Value} {text : String} {f : Fault} {name : String}

/-! ### Texts -/

theorem textOf?_str (s : String) : w.textOf? (.str s) = some s := rfl

theorem isUsualText_str (s : String) : w.isUsualText (.str s) = true := rfl

/-- What has a text is an object of the class of texts. -/
theorem isA_str_of_textOf? (h : w.textOf? v = some text) : w.isA v .str = true := by
  cases v with
  | str s => rfl
  | «instance» c content =>
    by_cases hc : w.derives c .str = true
    · exact hc
    · simp [textOf?, hc] at h
  | _ => cases h

/-- An object of the class of texts passes for one without being asked. -/
theorem isText_of_isA (h : w.isA v .str = true) : w.isText v = .ok true := by
  rw [isText, isInstance, if_pos h]
  rfl

theorem patternText_eq_ok_iff : w.patternText v = .ok text ↔ w.textOf? v = some text := by
  unfold patternText
  cases w.textOf? v with
  | some t => rw [Except.ok.injEq, Option.some.injEq]
  | none =>
    refine iff_of_false (fun h => ?_) (by rintro ⟨⟩)
    dsimp only at h
    split at h
    · cases h
    · split at h <;> cases h

theorem patternText_str (s : String) : w.patternText (.str s) = .ok s := rfl

theorem truth_str (s : String) : w.truth w.evaluator (.str s) = .ok (decide (s ≠ "")) := by
  have hlength : w.truth w.evaluator (.str s) = .ok (decide ((s.length : Int) ≠ 0)) := rfl
  rw [hlength]
  simp

/-! ### Usual texts -/

theorem eq_of_isSameMember {a b : Option Value} (h : isSameMember a b = true) : a = b := by
  unfold isSameMember at h
  split at h
  · rfl
  · simp_all
  · cases h

/-- The class of a usual text has what the class of texts has under the names of its methods. -/
theorem classAttribute?_of_usual (h : w.isUsualText v = true) (hn : name ∈ textMethods) :
    w.classAttribute? v name = w.classAttribute? (.str "") name :=
  eq_of_isSameMember (List.all_eq_true.mp h name hn)

theorem special_of_usual (h : w.isUsualText v = true) (name : String) (hn : name ∈ textMethods) :
    w.special v name = w.special (.str "") name := by
  rw [special, classAttribute?_of_usual h hn]
  rfl

/-- The object is this text, or an object of a class derived from that of texts that holds this text
and whose class leaves to the class of texts what texts do. -/
inductive IsUsual (w : World) (s : String) : Value → Prop where
  /-- The text itself. -/
  | text : IsUsual w s (.str s)
  /-- An object of a derived class. -/
  | derived {c : ClassRef} : w.derives c .str = true →
      w.isUsualText (.instance c (some (.str s))) = true → IsUsual w s (.instance c (some (.str s)))

namespace IsUsual

variable {s : String} (h : w.IsUsual s v)

include h

theorem textOf? : w.textOf? v = some s := by
  cases h with
  | text => rfl
  | derived hc _ => rw [World.textOf?, if_pos hc]

theorem isUsualText : w.isUsualText v = true := by
  cases h with
  | text => exact isUsualText_str s
  | derived _ hu => exact hu

theorem isA_str : w.isA v .str = true := isA_str_of_textOf? h.textOf?

/-- A usual text is read as what it holds. -/
theorem specText : w.specText v = .ok s := by
  rw [World.specText, isText_of_isA h.isA_str, Outcome.orFault_ok, ok_bind, if_pos rfl,
    patternText_eq_ok_iff.mpr h.textOf?, ok_bind, if_pos h.isUsualText]

/-- A usual text counts as true unless it is empty. -/
theorem truth : w.truth w.evaluator v = .ok (decide (s ≠ "")) := by
  cases h with
  | text => exact truth_str s
  | derived _ hu =>
    have hbool := special_of_usual hu "__bool__" (by decide)
    have hlen := special_of_usual hu "__len__" (by decide)
    rw [← truth_str s (w := w)]
    unfold World.truth length
    rw [hbool, hlen]
    rfl

/-- A usual text is written as it is inside of another text. -/
theorem formatted : w.formatted w.evaluator v = .ok s := by
  cases h with
  | text => rfl
  | @derived c _ hu =>
    have hformat := special_of_usual hu "__format__" (by decide)
    have hstr := special_of_usual hu "__str__" (by decide)
    have htext : w.text w.evaluator (.instance c (some (.str s))) = .ok s := by
      unfold World.text
      rw [hstr]
      rfl
    unfold World.formatted
    rw [hformat]
    exact htext

end IsUsual

theorem specText_str (s : String) : w.specText (.str s) = .ok s := IsUsual.text.specText

/-! ### What is no text -/

variable (w v) in
/-- For this reason, an object that is not of the class of texts specifies no method. -/
inductive NoText : Fault → Prop where
  /-- It does not pass for a text. -/
  | notText {name : String} : w.isText v = .ok false → w.nameOfType v = .ok name →
      NoText (.specNotText name)
  /-- It does not, and its class has no name that can be told. -/
  | nameless {c : Complaint} : w.isText v = .ok false → w.nameOfType v = .error c →
      NoText (.complaint c)
  /-- It does not answer what it is. -/
  | unclaimed {c : Complaint} : w.isText v = .error c → NoText (.complaint c)
  /-- It passes itself off as a text, and has none. -/
  | claimed {f : Fault} : w.isText v = .ok true → w.patternText v = .error f → NoText f

/-- An object that is not of the class of texts is refused for such a reason and for no other. -/
theorem specText_eq_error_iff (hno : w.isA v .str = false) :
    w.specText v = .error f ↔ w.NoText v f := by
  have hnone (text : String) : w.patternText v ≠ .ok text := fun h => by
    rw [isA_str_of_textOf? (patternText_eq_ok_iff.mp h)] at hno
    cases hno
  have hsteps : w.specText v = (w.isText v).orFault >>= fun b =>
      if b then w.patternText v >>= fun text =>
        if w.isUsualText v then .ok text else .error (.textUnsettled (w.typeName v))
      else (w.nameOfType v).orFault >>= fun name => .error (.specNotText name) := rfl
  rw [hsteps, bind_eq_error_iff, Outcome.orFault_eq_error_iff]
  constructor
  · rintro (⟨c, hc, rfl⟩ | ⟨b, hb, h⟩)
    · exact .unclaimed hc
    · rw [Outcome.orFault_eq_ok_iff] at hb
      cases b with
      | true =>
        rcases bind_eq_error_iff.mp h with h | ⟨text, htext, -⟩
        · exact .claimed hb h
        · exact absurd htext (hnone text)
      | false =>
        rcases bind_eq_error_iff.mp h with h | ⟨name, hname, h⟩
        · obtain ⟨c, hc, rfl⟩ := Outcome.orFault_eq_error_iff.mp h
          exact .nameless hb hc
        · obtain rfl := Except.error.inj h
          exact .notText hb (Outcome.orFault_eq_ok_iff.mp hname)
  · rintro (⟨hb, hname⟩ | ⟨hb, hc⟩ | hc | ⟨hb, h⟩)
    · exact Or.inr ⟨false, Outcome.orFault_eq_ok_iff.mpr hb,
        bind_eq_error_iff.mpr (Or.inr ⟨_, Outcome.orFault_eq_ok_iff.mpr hname, rfl⟩)⟩
    · exact Or.inr ⟨false, Outcome.orFault_eq_ok_iff.mpr hb,
        bind_eq_error_iff.mpr (Or.inl (Outcome.orFault_eq_error_iff.mpr ⟨_, hc, rfl⟩))⟩
    · exact Or.inl ⟨_, hc, rfl⟩
    · exact Or.inr ⟨true, Outcome.orFault_eq_ok_iff.mpr hb, bind_eq_error_iff.mpr (Or.inl h)⟩

/-- The name of the class of an object is what the class is called, if the class is ordinary. -/
theorem IsOrdinary.nameOfType (h : w.IsOrdinary (w.classOf v)) :
    w.nameOfType v = .ok (w.shortName (w.classOf v)) := by
  rw [World.nameOfType, h.read_name]
  rfl

/-- An honest object of an ordinary class that is not derived from that of texts is refused by the
name of its class. -/
theorem specText_of_honest (h : w.IsHonest v) (hno : w.isA v .str = false)
    (ho : w.IsOrdinary (w.classOf v)) :
    w.specText v = .error (.specNotText (w.shortName (w.classOf v))) := by
  have ht : w.isText v = .ok false := by
    rw [isText, isInstance_of_honest h, List.any_cons, hno]
    rfl
  exact (specText_eq_error_iff hno).mpr (.notText ht ho.nameOfType)

/-! ### Built-in classes -/

section

variable {w' : World} {b : Builtin} (h : w.classOf v = .builtin b) (h' : w'.classOf v = .builtin b)

include h h'

/-- What there is to an object of a built-in class does not depend on the world. -/
theorem isA_eq_of_builtin (b' : Builtin) : w.isA v b' = w'.isA v b' := by
  rw [isA, isA, h, h']
  rfl

theorem classAttribute?_eq_of_builtin (name : String) :
    w.classAttribute? v name = w'.classAttribute? v name := by
  rw [classAttribute?, classAttribute?, h, h']
  simp only [lookup?, lineage, List.findSome?_map]
  rfl

theorem typeName_eq_of_builtin : w.typeName v = w'.typeName v := by
  rw [typeName, typeName, h, h']
  rfl

theorem textOf?_eq_of_builtin : w.textOf? v = w'.textOf? v := by
  cases v with
  | «instance» c content =>
    obtain rfl : c = .builtin b := h
    rfl
  | _ => rfl

theorem specText_eq_of_builtin : w.specText v = w'.specText v := by
  have hisA := isA_eq_of_builtin h h'
  have hpattern : w.patternText v = w'.patternText v := by
    rw [patternText, patternText, textOf?_eq_of_builtin h h', hisA, hisA, hisA,
      typeName_eq_of_builtin h h']
  cases hstr : w.isA v .str with
  | true =>
    have husual : w.isUsualText v = w'.isUsualText v := by
      simp only [isUsualText, classAttribute?_eq_of_builtin h h']
      rfl
    rw [specText, specText, isText_of_isA hstr, isText_of_isA ((hisA .str).symm.trans hstr),
      hpattern, husual, typeName_eq_of_builtin h h']
    simp only [Outcome.orFault_ok, ok_bind, if_true]
  | false =>
    rw [specText_of_honest (isHonest_of_builtin h) hstr (h ▸ isOrdinary_builtin b),
      specText_of_honest (isHonest_of_builtin h') ((hisA .str).symm.trans hstr)
        (h' ▸ isOrdinary_builtin b), h, h']
    rfl

end

end World

namespace Predicate

variable {w : World} {v : Value} {text : String} {resolver : Option Resolver}

/-! ### Predicates from texts -/

theorem create_of_specText {maker : String} (h : w.specText v = .ok text) :
    create w (.value v) resolver maker = ofText w text resolver maker := by
  rw [create, h, ok_bind]

end Predicate

end Conformance
