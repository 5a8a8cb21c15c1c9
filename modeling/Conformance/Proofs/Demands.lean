import Conformance.Proofs.Descriptors
import Conformance.Proofs.RoundTrip
import Conformance.Proofs.Stopping

/-!
# What the words for a method demand

A descriptor is written in the words of a specification: those of its flags and of its visibility
(`Modifiers.demands`), in the order of specifications (`Descriptor.text_eq`). With the word
`function` in front of the name the text is a specification of the method. Any other method meets it
if and only if it has the same name and visibility and the flags that are written
(`Spec.accepts_iff_of_demands`).

A method may be found that is abstract and final, which no specification demands. Its text is
refused from the second of the two words on.
-/

namespace Conformance

open Text

/-! ### Words for modifiers are clauses -/

namespace Modifiers

/-- A constraint that a flag holds, or none. -/
def demandIf (b : Bool) : Option Bool := if b then some true else none

/-- The constraints that the words for the modifiers make. -/
def demands (ms : Modifiers) : Constraints where
  isStatic := demandIf (ms.contains .static)
  access := some (.only ms.visibility)
  isAbstract := demandIf (ms.contains .abstract)
  isFinal := demandIf (ms.contains .final)

theorem map_keyword_demandIf (f : Flag) (b : Bool) :
    (((demandIf b).map (Clause.flag f)).toList).map Clause.keyword =
      if b then [f.keyword] else [] := by
  cases b <;> rfl

theorem words_eq (ms : Modifiers) : ms.words = ms.demands.clauses.map Clause.keyword := by
  rw [words, demands, Constraints.clauses]
  simp only [List.map_append, map_keyword_demandIf]
  rfl

theorem demandIf_eq_some_iff {b c : Bool} : demandIf b = some c ↔ b = true ∧ c = true := by
  cases b <;> cases c <;> simp [demandIf]

/-- No specification demands that a method is abstract and final. -/
theorem conflicting_demands (ms : Modifiers) :
    ms.demands.conflicting = (ms.contains .abstract && ms.contains .final) := by
  cases ha : ms.contains .abstract <;> cases hf : ms.contains .final <;>
    simp [demands, demandIf, Constraints.conflicting, Conformance.conflicting, ha, hf]

/-- A method meets the words for modifiers if and only if it has their visibility and their
flags. -/
theorem forall_demands_iff {ms : Modifiers} {v : Visibility} {t : Traits} :
    (∀ c, ms.demands.Requires c → c.MetBy v t) ↔
      v = ms.visibility ∧ ∀ f : Flag, ms.contains f.modifier = true → t.flag f = true := by
  have hflag (f : Flag) :
      (∀ b, demandIf (ms.contains f.modifier) = some b → (Clause.flag f b).MetBy v t) ↔
        (ms.contains f.modifier = true → t.flag f = true) := by
    simp only [demandIf_eq_some_iff, and_imp, Clause.MetBy]
    exact ⟨fun h hf => h true hf rfl, fun h b hf hb => hb ▸ h hf⟩
  have haccess : (∀ a, some (Access.only ms.visibility) = some a → (Clause.access a).MetBy v t) ↔
      v = ms.visibility := by
    simp [Clause.MetBy, Access.allows]
  rw [Constraints.forall_requires_iff]
  refine (and_congr (hflag .static)
    (and_congr haccess (and_congr (hflag .abstract) (hflag .final)))).trans ?_
  constructor
  · rintro ⟨hs, hv, ha, hf⟩
    refine ⟨hv, ?_⟩
    rintro (_ | _ | _)
    · exact ha
    · exact hf
    · exact hs
  · rintro ⟨hv, h⟩
    exact ⟨h .static, hv, h .abstract, h .final⟩

end Modifiers

/-- A specification that demands what the words for a method demand accepts the methods of its name
that have the same visibility and the flags that are written. -/
theorem Spec.accepts_iff_of_demands {s : Spec} {d e : Descriptor}
    (hs : s.toConstraints = d.modifiers.demands) :
    s.accepts e = true ↔
      e.name = s.name ∧ e.visibility = d.visibility ∧ ∀ f, d.flag f = true → e.flag f = true := by
  rw [Spec.accepts_iff_metBy, hs, Modifiers.forall_demands_iff]
  simp only [Descriptor.flag_traits]
  refine and_congr_right fun _ => and_congr_right fun _ => forall_congr' fun f => ?_
  cases f <;> exact Iff.rfl

/-! ### Texts of clauses -/

namespace Spec

/-- Clauses as they are written lead to whatever is behind them. -/
theorem exists_opens_clausesText (ks : List Clause) (r : List Char) {w : List Char}
    (hw : AllBlank w) :
    ∃ v, AllBlank v ∧ Opens (v ++ r) ks (w ++ ((clausesText ks).toList ++ r)) := by
  induction ks generalizing w with
  | nil => exact ⟨w, hw, Opens.nil⟩
  | cons k ks ih =>
    obtain ⟨v, hv, ho⟩ := ih .single
    refine ⟨v, hv, ?_⟩
    rw [toList_clausesText_cons, List.append_assoc, List.append_assoc]
    exact Opens.cons hw (startsOutsideWord_append .single (List.cons_ne_nil _ _) _) ho

theorem leads_clausesText {ks : List Clause} (hd : (ks.map Clause.category).Nodup)
    (hc : ¬ Contradictory ks) (r : List Char) : Leads ks (clausesText ks).toList r := by
  obtain ⟨v, hv, ho⟩ := exists_opens_clausesText ks r AllBlank.nil
  exact ⟨⟨v, hv, ho⟩, hd, hc⟩

/-- A single clause does not contradict itself. -/
theorem not_contradictory_singleton (k : Clause) : ¬ Contradictory [k] := by
  rintro ⟨a, f, ha, hf, -⟩
  cases (List.mem_singleton.mp ha).trans (List.mem_singleton.mp hf).symm

/-- Of two clauses that contradict each other, the second one is refused. -/
theorem parse_of_contradictory {k l : Clause} (hc : Contradictory [k, l]) (rest : String) :
    parse (clauseText k ++ (clauseText l ++ rest)) =
      .error (.malformedSpec (clauseText l ++ rest)) := by
  have hl : Leads [k] (clauseText k).toList (clauseText l ++ rest).toList := by
    have hk : clauseText k = clausesText [k] := by
      rw [clausesText_cons]
      exact String.append_empty.symm
    rw [hk]
    exact leads_clausesText (by simp) (not_contradictory_singleton k) _
  have hstarts : StartsWith l.keyword.toList (clauseText l ++ rest).toList :=
    ⟨_, toList_clauseText_append l rest,
      startsOutsideWord_append .single (List.cons_ne_nil _ _) rest.toList⟩
  refine parse_of_stops (.word_of_contradictory hl hstarts hc) ?_
  rw [toList_clauseText_append]
  exact isIdentifier_eq_false (c := ' ') (by simp) (by decide)

/-- Words that end in a name, with a blank behind each of them. -/
theorem intercalate_keywords (ks : List Clause) (name : String) :
    " ".intercalate (ks.map Clause.keyword ++ ["method", name]) =
      clausesText ks ++ "method " ++ name := by
  induction ks with
  | nil =>
    rw [List.map_nil, List.nil_append, String.intercalate_cons_cons, String.intercalate_singleton]
    rfl
  | cons k ks ih =>
    rw [List.map_cons, List.cons_append, String.intercalate_cons_of_ne_nil (by simp), ih,
      clausesText, clausesText, List.map_cons, String.join_cons, clauseText]
    simp only [String.append_assoc]

end Spec

namespace Descriptor

theorem text_eq (d : Descriptor) :
    d.text = Spec.clausesText d.modifiers.demands.clauses ++ "method " ++ d.name := by
  rw [text, Modifiers.words_eq, Spec.intercalate_keywords]

/-- What stands in front of the word `method` are the words for the modifiers. -/
theorem eq_clausesText_of_text {d : Descriptor} {q : String}
    (h : d.text = q ++ "method " ++ d.name) :
    q = Spec.clausesText d.modifiers.demands.clauses := by
  rw [text_eq, String.append_left_inj, String.append_left_inj] at h
  exact h.symm

variable {d : Descriptor}

/-- The words for a method that is not both abstract and final are a specification, with the word
`function` in front of the name. -/
theorem exists_parse_clausesText (hn : isIdentifier d.name.toList = true)
    (hc : ¬ (d.flag .abstract = true ∧ d.flag .final = true)) :
    ∃ s : Spec, s.name = d.name ∧ s.toConstraints = d.modifiers.demands ∧
      Spec.parse (Spec.clausesText d.modifiers.demands.clauses ++ "function " ++ d.name) =
        .ok s := by
  have hfree : d.modifiers.demands.conflicting = false := by
    rw [Modifiers.conflicting_demands, Bool.and_eq_false_iff]
    exact (not_and_or.mp hc).imp Bool.eq_false_iff.mpr Bool.eq_false_iff.mpr
  let s : Spec := ⟨d.modifiers.demands, d.name, hn, hfree⟩
  exact ⟨s, rfl, rfl, Spec.parse_clausesText s⟩

/-- The words for a method that is abstract and final begin with these two. -/
theorem exists_clausesText_eq (ha : d.flag .abstract = true) (hf : d.flag .final = true) :
    ∃ rest, Spec.clausesText d.modifiers.demands.clauses = "final " ++ ("abstract " ++ rest) := by
  obtain ⟨ks, hks⟩ : ∃ ks, d.modifiers.demands.clauses =
      .flag .final true :: .flag .abstract true :: ks := by
    have ha : d.modifiers.contains .abstract = true := ha
    have hf : d.modifiers.contains .final = true := hf
    simp [Modifiers.demands, Modifiers.demandIf, Constraints.clauses, ha, hf]
  refine ⟨Spec.clausesText ks, ?_⟩
  rw [hks, Spec.clausesText_cons, Spec.clausesText_cons]
  rfl

/-- **The words for a method are a specification of it.** They end in the word `method` and the
name. With the word `function` instead they are read as a specification that accepts the method and is
written in the same words. It accepts exactly the methods of that name that have the same visibility
and, of the flags, at least those of the method. The one exception is a method that is abstract and
final: its words are refused from the word `abstract` on. -/
theorem text_specifies (d : Descriptor) (hn : isIdentifier d.name.toList = true) :
    (∃ q, d.text = q ++ "method " ++ d.name) ∧
    ∀ q, d.text = q ++ "method " ++ d.name →
      (¬ (d.flag .abstract = true ∧ d.flag .final = true) →
        ∃ s, Spec.parse (q ++ "function " ++ d.name) = .ok s ∧ s.accepts d = true ∧
          s.text = d.text ∧
          ∀ e : Descriptor, s.accepts e = true ↔
            e.name = d.name ∧ e.visibility = d.visibility ∧
              ∀ f, d.flag f = true → e.flag f = true) ∧
      (d.flag .abstract = true → d.flag .final = true →
        ∃ rest, q = "final abstract " ++ rest ∧
          Spec.parse (q ++ "function " ++ d.name) =
            .error (.malformedSpec ("abstract " ++ rest ++ "function " ++ d.name))) := by
  refine ⟨⟨_, d.text_eq⟩, fun q hq => ?_⟩
  obtain rfl := eq_clausesText_of_text hq
  constructor
  · intro hc
    obtain ⟨s, hname, hs, hparse⟩ := exists_parse_clausesText hn hc
    have haccepts (e : Descriptor) := Spec.accepts_iff_of_demands (e := e) hs
    rw [hname] at haccepts
    refine ⟨s, hparse, (haccepts d).mpr ⟨rfl, rfl, fun _ hf => hf⟩, ?_, haccepts⟩
    rw [Spec.text_eq, hs, hname, d.text_eq]
  · intro ha hf
    obtain ⟨rest, hrest⟩ := exists_clausesText_eq ha hf
    have hc : Contradictory [.flag .final true, .flag .abstract true] :=
      ⟨true, true, by simp, by simp, Or.inl rfl⟩
    refine ⟨rest, ?_, ?_⟩
    · rw [hrest, ← String.append_assoc]
      rfl
    · have h := Spec.parse_of_contradictory hc (rest ++ "function " ++ d.name)
      rw [hrest]
      simp only [String.append_assoc] at h ⊢
      exact h

/-- A public method that is static and final, with two bits set that have no meaning. -/
def staticFinal : Descriptor := ⟨"foo", ⟨1 + 8 + 16 + 32 + 128⟩, by decide, by decide⟩

/-- A protected method that is abstract and final. -/
def abstractFinal : Descriptor := ⟨"_bar", ⟨2 + 32 + 64⟩, by decide, by decide⟩

/-- The words of a static final method are read, those of an abstract final one are refused. -/
theorem text_specifies_staticFinal :
    (staticFinal.text = "final public static method foo" ∧
      ∃ s, Spec.parse "final public static function foo" = .ok s ∧ s.accepts staticFinal = true) ∧
    abstractFinal.text = "final abstract protected method _bar" ∧
      Spec.parse "final abstract protected function _bar" =
        .error (.malformedSpec "abstract protected function _bar") := by
  constructor
  · obtain ⟨-, h⟩ := text_specifies staticFinal (by decide)
    obtain ⟨s, hs, ha, -⟩ := (h "final public static " (by decide)).1 (by decide)
    exact ⟨by decide, s, hs, ha⟩
  · obtain ⟨-, h⟩ := text_specifies abstractFinal (by decide)
    obtain ⟨rest, hq, hs⟩ := (h "final abstract protected " (by decide)).2 (by decide) (by decide)
    obtain rfl : "protected " = rest := (String.append_right_inj "final abstract ").mp hq
    exact ⟨by decide, hs⟩

end Descriptor

end Conformance
