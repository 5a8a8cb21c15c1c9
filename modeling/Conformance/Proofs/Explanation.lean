import Conformance.Proofs.Classes
import Conformance.Proofs.Matching
import Conformance.Proofs.RoundTrip

/-!
# What an explanation tells

An explanation ends by telling of the method that was found, or that there is none. The name of the
class in front of that may contain anything, also words that are used behind it. Still the end can
be read in one way: behind the last `has` there are the words for the modifiers, `method` and the
name (`Predicate.TellsOf.words_eq`), and neither of the other two forms ends so
(`Predicate.not_tellsOf_unresolvedText`, `Predicate.not_tellsOf_missingText`).

So an explanation tells whether the predicate holds (`Predicate.Explained.holds_iff`). There may be
none where the predicate holds: the predicate does not ask what passes for a class for its name, and
something that is no class need not have one, as in the world `World.nameless`.
-/

namespace Conformance

namespace Predicate

/-! ### The end of an explanation -/

/-- The text ends by telling that something has the method. -/
def TellsOf (t : String) (d : Descriptor) : Prop := ∃ before, t = before ++ " has " ++ d.text

theorem tellsOf_foundText (className : String) (d : Descriptor) :
    TellsOf (foundText className d) d := ⟨className, rfl⟩

/-- What is between two blanks, in front of the first and behind the second is divided on its
own. -/
theorem piecesAt_between (before middle behind : String) :
    piecesAt ' ' (before ++ (" " ++ middle ++ " ") ++ behind) =
      piecesAt ' ' before ++ (piecesAt ' ' middle ++ piecesAt ' ' behind) := by
  have h : before ++ (" " ++ middle ++ " ") ++ behind =
      before ++ String.singleton ' ' ++ (middle ++ String.singleton ' ' ++ behind) := by
    rw [show " " = String.singleton ' ' from rfl]
    simp only [String.append_assoc]
  rw [h, piecesAt_append, piecesAt_append]

theorem blank_not_mem_of_mem_words {ms : Modifiers} {x : String} (h : x ∈ ms.words) :
    ' ' ∉ x.toList := by
  have hall : ∀ x ∈ ["final", "abstract", "static", "public", "protected", "private"],
      ' ' ∉ x.toList := by decide
  exact hall x (Modifiers.mem_keywords_of_mem_words h)

/-- The words of a text that tells of a method. -/
theorem TellsOf.exists_words {t : String} {d : Descriptor} (h : TellsOf t d)
    (hn : ' ' ∉ d.name.toList) :
    ∃ front, piecesAt ' ' t = (front ++ "has" :: d.modifiers.words) ++ ["method", d.name] := by
  obtain ⟨before, rfl⟩ := h
  have hwords : piecesAt ' ' d.text = d.modifiers.words ++ ["method", d.name] := by
    refine piecesAt_intercalate (by simp) fun x hx => ?_
    rcases List.mem_append.mp hx with hx | hx
    · exact blank_not_mem_of_mem_words hx
    · rcases List.mem_pair.mp hx with rfl | rfl
      · decide
      · exact hn
  have hbetween : piecesAt ' ' (before ++ " has " ++ d.text) =
      piecesAt ' ' before ++ (["has"] ++ piecesAt ' ' d.text) :=
    piecesAt_between before "has" d.text
  exact ⟨piecesAt ' ' before, by rw [hbetween, hwords, List.append_assoc]; rfl⟩

theorem has_not_mem_words (ms : Modifiers) : "has" ∉ ms.words := fun h =>
  absurd (Modifiers.mem_keywords_of_mem_words h) (by decide)

/-- What a text tells of a method is read in one way. -/
theorem TellsOf.words_eq {t : String} {d d' : Descriptor} (h : TellsOf t d) (h' : TellsOf t d')
    (hn : ' ' ∉ d.name.toList) (hn' : ' ' ∉ d'.name.toList) :
    d.name = d'.name ∧ d.modifiers.words = d'.modifiers.words := by
  obtain ⟨front, hw⟩ := h.exists_words hn
  obtain ⟨front', hw'⟩ := h'.exists_words hn'
  -- the name may be `has` or `method`, so that the last two words go first
  obtain ⟨hfront, hlast⟩ := List.append_inj' (hw.symm.trans hw') rfl
  obtain ⟨-, hwords⟩ :=
    eq_of_append_cons_append (has_not_mem_words _) (has_not_mem_words _) hfront
  exact ⟨by simpa using hlast, hwords⟩

theorem not_tellsOf_unresolvedText {d : Descriptor} (hn : ' ' ∉ d.name.toList) :
    ¬ TellsOf unresolvedText d := by
  intro h
  obtain ⟨front, hw⟩ := h.exists_words hn
  have hu : piecesAt ' ' unresolvedText =
      ["subject", "cannot", "be", "reflected", "as"] ++ ["a", "class"] := by decide
  obtain ⟨-, hlast⟩ := List.append_inj' (hw.symm.trans hu) rfl
  simp at hlast

theorem not_tellsOf_missingText {className name : String} {d : Descriptor}
    (hname : ' ' ∉ name.toList) (hn : ' ' ∉ d.name.toList) :
    ¬ TellsOf (missingText className name) d := by
  intro h
  obtain ⟨front, hw⟩ := h.exists_words hn
  have hbetween : piecesAt ' ' (missingText className name) =
      piecesAt ' ' className ++ (["has", "no", "method"] ++ piecesAt ' ' name) :=
    piecesAt_between className "has no method" name
  have hm : piecesAt ' ' (missingText className name) =
      (piecesAt ' ' className ++ "has" :: ["no"]) ++ ["method", name] := by
    rw [hbetween, piecesAt_of_not_mem hname, List.append_assoc]
    rfl
  obtain ⟨hfront, -⟩ := List.append_inj' (hw.symm.trans hm) rfl
  obtain ⟨-, hwords⟩ := eq_of_append_cons_append (has_not_mem_words _) (by decide) hfront
  -- a method has the word of its visibility in the place of `no`
  have hno : "no" ∈ d.modifiers.words := hwords ▸ List.mem_singleton_self "no"
  exact absurd (Modifiers.mem_keywords_of_mem_words hno) (by decide)

/-! ### Explanations and verdicts -/

variable {w : World} {s : Spec} {subject c : Value} {d : Descriptor} {b : Bool} {t : String}

variable (w s subject) in
/-- The explanation of a subject, with the verdict on it. -/
inductive Explained : Bool → String → Prop where
  /-- The subject stands for no class. -/
  | unresolved : w.resolve subject = .ok none → Explained false unresolvedText
  /-- The class has no such method. -/
  | missing {c : Value} {className : String} : w.resolve subject = .ok (some c) →
      w.findMethod c s.name = .ok none → w.qualifiedText c = .ok className →
      Explained false (missingText className s.name)
  /-- The class has a method of that name. -/
  | found {c : Value} {d : Descriptor} {className : String} : w.resolve subject = .ok (some c) →
      w.findMethod c s.name = .ok (some d) → w.qualifiedText c = .ok className →
      Explained (s.accepts d) (foundText className d)

theorem Explained.holds (h : Explained w s subject b t) :
    (ofSpec w s none).holds subject = .ok b := by
  cases h with
  | unresolved hr =>
    have hn : (ofSpec w s none).resolver.resolve subject = .ok none :=
      Outcome.orFault_eq_ok_iff.mpr hr
    rw [Predicate.holds, Predicate.findMethod, hn]
    rfl
  | missing hr hm _ => rw [holds_of_resolve hr, hm]; rfl
  | found hr hm _ => rw [holds_of_resolve hr, hm]; rfl

/-- Asked of a subject that stands for a class, a predicate looks for the method there and asks the
class for its name. -/
theorem explain_of_resolve (h : w.resolve subject = .ok (some c)) :
    (ofSpec w s none).explain w subject =
      (do
        match ← w.findMethod c s.name with
        | none => return missingText (← (w.qualifiedText c).orFault) s.name
        | some d => return foundText (← (w.qualifiedText c).orFault) d) := by
  have hc : (ofSpec w s none).resolver.resolve subject = .ok (some c) :=
    Outcome.orFault_eq_ok_iff.mpr h
  rw [explain, hc]
  rfl

theorem explain_eq_ok_iff :
    (ofSpec w s none).explain w subject = .ok t ↔ ∃ b, Explained w s subject b t := by
  constructor
  · intro h
    obtain ⟨r, hr, h⟩ := bind_eq_ok_iff.mp h
    have hr : w.resolve subject = .ok r := Outcome.orFault_eq_ok_iff.mp hr
    cases r with
    | none =>
      obtain rfl := Except.ok.inj h
      exact ⟨false, .unresolved hr⟩
    | some c =>
      obtain ⟨found, hf, h⟩ := bind_eq_ok_iff.mp h
      cases found with
      | none =>
        obtain ⟨className, hq, h⟩ := bind_eq_ok_iff.mp h
        obtain rfl := pure_eq_ok_iff.mp h
        exact ⟨false, .missing hr hf (Outcome.orFault_eq_ok_iff.mp hq)⟩
      | some d =>
        obtain ⟨className, hq, h⟩ := bind_eq_ok_iff.mp h
        obtain rfl := pure_eq_ok_iff.mp h
        exact ⟨s.accepts d, .found hr hf (Outcome.orFault_eq_ok_iff.mp hq)⟩
  · rintro ⟨b, h⟩
    cases h with
    | unresolved hr =>
      have hn : (ofSpec w s none).resolver.resolve subject = .ok none :=
        Outcome.orFault_eq_ok_iff.mpr hr
      rw [explain, hn]
      rfl
    | missing hr hm hq =>
      rw [explain_of_resolve hr, hm, hq]
      rfl
    | found hr hm hq =>
      rw [explain_of_resolve hr, hm, hq]
      rfl

/-- A method is found under the name that was asked for. -/
theorem name_of_findMethod {name : String} (h : w.findMethod c name = .ok (some d)) :
    d.name = name := by
  obtain ⟨_, _, _, _, hd⟩ := World.exists_firstKept_of_findMethod h
  obtain ⟨t, -, hd⟩ := World.describe_eq_some_iff.mp hd
  exact (Descriptor.of_create hd).1

theorem blank_not_mem_of_name_eq (h : d.name = s.name) : ' ' ∉ d.name.toList :=
  h ▸ s.blank_not_mem_name

/-- An explanation tells of an accepted method of that name if and only if the verdict is
positive. -/
theorem Explained.verdict_iff (h : Explained w s subject b t) :
    b = true ↔ ∃ d : Descriptor, d.name = s.name ∧ TellsOf t d ∧ s.accepts d = true := by
  cases h with
  | unresolved _ =>
    refine iff_of_false Bool.false_ne_true ?_
    rintro ⟨d, hn, ht, -⟩
    exact not_tellsOf_unresolvedText (blank_not_mem_of_name_eq hn) ht
  | missing _ _ _ =>
    refine iff_of_false Bool.false_ne_true ?_
    rintro ⟨d, hn, ht, -⟩
    exact not_tellsOf_missingText s.blank_not_mem_name (blank_not_mem_of_name_eq hn) ht
  | @found _ d className _ hm _ =>
    have hd : d.name = s.name := name_of_findMethod hm
    constructor
    · intro ha
      exact ⟨d, hd, tellsOf_foundText className d, ha⟩
    · rintro ⟨d', hn', ht', ha⟩
      obtain ⟨hn, hw⟩ := (tellsOf_foundText className d).words_eq ht'
        (blank_not_mem_of_name_eq hd) (blank_not_mem_of_name_eq hn')
      rw [Spec.accepts_congr hn hw]
      exact ha

/-- Where there is an explanation, it tells whether the predicate holds. -/
theorem holds_iff_tellsOf (h : (ofSpec w s none).explain w subject = .ok t) :
    (ofSpec w s none).holds subject = .ok true ↔
      ∃ d : Descriptor, d.name = s.name ∧ TellsOf t d ∧ s.accepts d = true := by
  obtain ⟨b, hb⟩ := explain_eq_ok_iff.mp h
  rw [← hb.verdict_iff, hb.holds]
  exact Except.ok.injEq b true ▸ Iff.rfl

/-- Where there are two explanations and they are the same, so are the verdicts. -/
theorem holds_eq_of_explain_eq {x y : Value} (hx : (ofSpec w s none).explain w x = .ok t)
    (hy : (ofSpec w s none).explain w y = .ok t) :
    ∃ b, (ofSpec w s none).holds x = .ok b ∧ (ofSpec w s none).holds y = .ok b := by
  obtain ⟨b, hb⟩ := explain_eq_ok_iff.mp hx
  obtain ⟨b', hb'⟩ := explain_eq_ok_iff.mp hy
  obtain rfl : b = b' := Bool.eq_iff_iff.mpr (hb.verdict_iff.trans hb'.verdict_iff.symm)
  exact ⟨b, hb.holds, hb'.holds⟩

/-- Where the predicate holds, the explanation is that of the method that was found, or what the
class complains of that is asked for its name. -/
theorem explain_of_holds (hr : w.resolve subject = .ok (some c))
    (h : (ofSpec w s none).holds subject = .ok true) :
    ∃ d, w.findMethod c s.name = .ok (some d) ∧ s.accepts d = true ∧
      (ofSpec w s none).explain w subject =
        (w.qualifiedText c).orFault.map fun className => foundText className d := by
  obtain ⟨c', d, hr', hm, ha⟩ := holds_eq_true_iff.mp h
  obtain rfl := Option.some.inj (answer_unique hr hr')
  refine ⟨d, hm, ha, ?_⟩
  rw [explain_of_resolve hr, hm]
  rfl

variable (w s subject) in
/-- The predicate holds of the subject if and only if the explanation ends by telling of an
accepted method of that name. -/
def CarriesVerdict : Prop :=
  (ofSpec w s none).holds subject = .ok true ↔
    ∃ (t : String) (d : Descriptor), (ofSpec w s none).explain w subject = .ok t ∧
      d.name = s.name ∧ TellsOf t d ∧ s.accepts d = true

theorem CarriesVerdict.of_explain (h : (ofSpec w s none).explain w subject = .ok t) :
    CarriesVerdict w s subject := by
  rw [CarriesVerdict, holds_iff_tellsOf h]
  constructor
  · rintro ⟨d, hd⟩
    exact ⟨t, d, h, hd⟩
  · rintro ⟨t', d, ht', hd⟩
    obtain rfl := answer_unique h ht'
    exact ⟨d, hd⟩

/-- An explanation carries the verdict if and only if the class that was asked tells its name where
the predicate holds. -/
theorem carriesVerdict_iff :
    CarriesVerdict w s subject ↔
      ∀ c, w.resolve subject = .ok (some c) → (ofSpec w s none).holds subject = .ok true →
        ∃ className, w.qualifiedText c = .ok className := by
  constructor
  · intro h c hr hb
    obtain ⟨d, -, -, he⟩ := explain_of_holds hr hb
    obtain ⟨t, -, ht, -⟩ := h.mp hb
    cases hq : w.qualifiedText c with
    | ok className => exact ⟨className, rfl⟩
    | error x =>
      rw [he, hq] at ht
      cases ht
  · intro h
    by_cases hb : (ofSpec w s none).holds subject = .ok true
    · obtain ⟨c, -, hr, -⟩ := holds_eq_true_iff.mp hb
      obtain ⟨className, hq⟩ := h c hr hb
      obtain ⟨d, -, -, he⟩ := explain_of_holds hr hb
      rw [hq] at he
      exact .of_explain he
    · refine iff_of_false hb ?_
      rintro ⟨t, d, ht, hd⟩
      exact hb ((holds_iff_tellsOf ht).mpr ⟨d, hd⟩)

/-- **The explanation carries the verdict.** A predicate holds of a subject if and only if the
explanation ends by telling of an accepted method of that name, under the one reservation that there
is an explanation: what passes for a class may fail to tell its name, an ordinary class does not.
Where there is an explanation, it tells whether the predicate holds, whatever the name of the class
is. So the same explanation comes with the same verdict, the two forms of explanations for which
there is no method never read as one for which there is, and where the predicate holds and there is
no explanation, the complaint is that about the name. -/
theorem explanation_carries_verdict (w : World) (s : Spec) :
    (∀ subject, CarriesVerdict w s subject ↔
      ∀ c, w.resolve subject = .ok (some c) → (ofSpec w s none).holds subject = .ok true →
        ∃ className, w.qualifiedText c = .ok className) ∧
    (∀ subject k, w.resolve subject = .ok (some (.cls k)) → w.IsOrdinary k →
      CarriesVerdict w s subject) ∧
    (∀ subject t, (ofSpec w s none).explain w subject = .ok t →
      ((ofSpec w s none).holds subject = .ok true ↔
        ∃ d : Descriptor, d.name = s.name ∧ TellsOf t d ∧ s.accepts d = true)) ∧
    (∀ x y t, (ofSpec w s none).explain w x = .ok t → (ofSpec w s none).explain w y = .ok t →
      ∃ b, (ofSpec w s none).holds x = .ok b ∧ (ofSpec w s none).holds y = .ok b) ∧
    (∀ d : Descriptor, d.name = s.name →
      ¬ TellsOf unresolvedText d ∧ ∀ className, ¬ TellsOf (missingText className s.name) d) ∧
    ∀ subject c f, w.resolve subject = .ok (some c) →
      (ofSpec w s none).holds subject = .ok true →
      (ofSpec w s none).explain w subject = .error f →
      ∃ x, w.qualifiedText c = .error x ∧ f = .complaint x := by
  refine ⟨fun _ => carriesVerdict_iff, fun subject k hr hk => ?_, fun _ _ => holds_iff_tellsOf,
    fun _ _ _ => holds_eq_of_explain_eq, fun d hd => ?_, fun subject c f hr hb hf => ?_⟩
  · refine carriesVerdict_iff.mpr fun c hc _ => ?_
    obtain rfl := Option.some.inj (answer_unique hr hc)
    exact ⟨_, hk.qualifiedText⟩
  · have hn := blank_not_mem_of_name_eq hd
    exact ⟨not_tellsOf_unresolvedText hn,
      fun className => not_tellsOf_missingText s.blank_not_mem_name hn⟩
  · obtain ⟨d, -, -, he⟩ := explain_of_holds hr hb
    cases hq : w.qualifiedText c with
    | ok className =>
      rw [he, hq] at hf
      cases hf
    | error x =>
      rw [he, hq] at hf
      exact ⟨x, rfl, (Except.error.inj hf).symm⟩

end Predicate

/-! ### Something without a name that passes for a class -/

/-- The objects of the class `X` are tuples that pass themselves off as classes and answer their own
items for their lineage. The class `K` has a method `a`. -/
def Declaration.nameless : List Declaration :=
  [.plain "K" [("a", .function none none none)],
   { Declaration.plain "X" [("__class__", .cls (.builtin .type)),
      ("__mro__", .property (some (.cls (.builtin .tuple))) none)] with
     bases := [.builtin .tuple] }]

/-- The world with these classes. -/
def World.nameless : World := (Declaration.nameless.foldlM World.declare {}).toOption.getD {}

namespace Predicate

/-- An object of `X` that holds the class `K`. -/
def namelessSubject : Value := .instance (.declared "X") (some (.tuple [.cls (.declared "K")]))

/-- The object is taken for a class that has the method `a` of `K`. It has no name with which this
could be explained. -/
theorem not_carriesVerdict_nameless :
    Declaration.nameless.foldlM World.declare {} = .ok World.nameless ∧
      (ofSpec World.nameless .plain none).holds namelessSubject = .ok true ∧
      (ofSpec World.nameless .plain none).explain World.nameless namelessSubject =
        .error (.complaint (.noAttribute "X" "__qualname__")) ∧
      ¬ CarriesVerdict World.nameless .plain namelessSubject := by
  have hresolve : World.nameless.resolve namelessSubject = .ok (some namelessSubject) := rfl
  have hholds : (ofSpec World.nameless .plain none).holds namelessSubject = .ok true := rfl
  have hname : World.nameless.qualifiedText namelessSubject =
      .error (.noAttribute "X" "__qualname__") := by
    have hm : World.nameless.read namelessSubject "__module__" = .ok (.str "m") := rfl
    rw [World.qualifiedText, World.qualifiedName, hm, ok_bind, World.equal_str]
    rfl
  obtain ⟨d, -, -, hexplain⟩ := explain_of_holds hresolve hholds
  rw [hname] at hexplain
  refine ⟨rfl, hholds, hexplain, fun h => ?_⟩
  obtain ⟨className, hc⟩ := carriesVerdict_iff.mp h namelessSubject hresolve hholds
  cases hname.symm.trans hc

end Predicate

end Conformance
