import Conformance.Proofs.Refusal
import Mathlib.Data.List.Perm.Basic

/-!
# Order and spacing of words

Neither the order of the clauses of a specification nor the blanks between its words have a meaning.
A long form has one reading (`Spec.Sentence.unique`), and what clauses amount to depends on which
they are and not on their order. So a text of clauses, the word `function` and a name, with blanks
between them, is accepted if and only if the clauses go together (`Spec.parse_spaced_eq_ok_iff`),
and all texts of the same words are accepted as the same specification or refused together.
-/

namespace Conformance

open Text

/-! ### Lists of clauses in another order -/

theorem Contradictory.perm {ks ls : List Clause} (h : Contradictory ks) (hp : ks.Perm ls) :
    Contradictory ls := h.mono hp.subset

theorem Constraints.Collects.perm {k : Constraints} {ks ls : List Clause} (h : k.Collects ks)
    (hp : ks.Perm ls) : k.Collects ls := fun c => (h c).trans hp.mem_iff

/-! ### Spacing -/

/-- Blanks for a row of words: any in front of the first word, and at least one in front of each of
the `n` others. -/
structure Spacing (n : ℕ) where
  /-- What stands in front of the first word. -/
  lead : List Char
  /-- What stands in front of each of the other words. -/
  gaps : List (List Char)
  length_gaps : gaps.length = n
  allBlank_lead : AllBlank lead
  allBlank_gaps : ∀ v ∈ gaps, AllBlank v
  gaps_ne_nil : ∀ v ∈ gaps, v ≠ []

/-- The words with the blanks in front of them. -/
def Spacing.join {n : ℕ} (b : Spacing n) (words : List (List Char)) : List Char :=
  (List.zipWith (· ++ ·) (b.lead :: b.gaps) words).flatten

/-- The same blanks in front of each word but the first. -/
def Spacing.uniform (n : ℕ) {lead gap : List Char} (hlead : AllBlank lead) (hgap : AllBlank gap)
    (hne : gap ≠ []) : Spacing n where
  lead := lead
  gaps := List.replicate n gap
  length_gaps := List.length_replicate
  allBlank_lead := hlead
  allBlank_gaps := fun _ hv => List.eq_of_mem_replicate hv ▸ hgap
  gaps_ne_nil := fun _ hv => List.eq_of_mem_replicate hv ▸ hne

namespace Spec

/-- The words of a long form: the clauses, the word `function` and the name. -/
def longWords (ks : List Clause) (name : List Char) : List (List Char) :=
  ks.map (fun k => k.keyword.toList) ++ [functionWord, name]

/-- The text of clauses, the word `function` and a name, with blanks between them. -/
def spaced (ks : List Clause) (name : String) (b : Spacing (ks.length + 1)) : String :=
  String.ofList (b.join (longWords ks name.toList))

variable {ks ls : List Clause} {name name' cs : List Char}

/-- Words with blanks between them are a long form behind blanks. -/
theorem exists_sentence_of_gaps {gaps : List (List Char)} (hlen : gaps.length = ks.length + 1)
    (hblank : ∀ v ∈ gaps, AllBlank v) (hne : ∀ v ∈ gaps, v ≠ [])
    (hn : isIdentifier name = true) :
    ∃ cs, Sentence name ks cs ∧ ∀ lead,
      (List.zipWith (· ++ ·) (lead :: gaps) (longWords ks name)).flatten = lead ++ cs := by
  induction ks generalizing gaps with
  | nil =>
    obtain ⟨v, rfl⟩ := List.length_eq_one_iff.mp hlen
    refine ⟨_, Sentence.function (hblank v (List.mem_singleton_self v))
      (hne v (List.mem_singleton_self v)) hn, fun lead => ?_⟩
    simp [longWords]
  | cons k ks ih =>
    obtain ⟨v, gaps, rfl⟩ := List.exists_cons_of_length_eq_add_one hlen
    obtain ⟨cs, hs, hcs⟩ := ih (Nat.succ.inj hlen)
      (fun u hu => hblank u (List.mem_cons_of_mem v hu))
      (fun u hu => hne u (List.mem_cons_of_mem v hu))
    refine ⟨_, Sentence.clause (hblank v List.mem_cons_self)
      (fun h => absurd h (hne v List.mem_cons_self)) hs, fun lead => ?_⟩
    have hwords : longWords (k :: ks) name = k.keyword.toList :: longWords ks name := rfl
    rw [hwords, List.zipWith_cons_cons, List.flatten_cons, hcs v, List.append_assoc]

theorem exists_sentence_of_spaced {name : String} (hn : isIdentifier name.toList = true)
    (b : Spacing (ks.length + 1)) :
    ∃ cs, Sentence name.toList ks cs ∧ (spaced ks name b).toList = b.lead ++ cs := by
  obtain ⟨cs, hs, hcs⟩ := exists_sentence_of_gaps b.length_gaps b.allBlank_gaps b.gaps_ne_nil hn
  exact ⟨cs, hs, by rw [spaced, String.toList_ofList, Spacing.join, hcs]⟩

/-! ### A long form has one reading -/

theorem Sentence.trimStart (h : Sentence name ks cs) : trimStart cs = cs := by
  obtain ⟨c, ds, rfl, hc⟩ := h.exists_cons
  refine trimStart_cons_of_not_blank ?_
  rcases hc with rfl | hc
  · decide
  · exact not_blank_of_isAsciiWord hc

/-- What is behind blanks is determined, if it does not begin with a blank. -/
theorem eq_of_blanks_append {v w cs ds : List Char} (hv : AllBlank v) (hw : AllBlank w)
    (hcs : trimStart cs = cs) (hds : trimStart ds = ds) (h : v ++ cs = w ++ ds) : cs = ds := by
  have ht := congrArg Text.trimStart h
  rw [trimStart_append hv, trimStart_append hw, hcs, hds] at ht
  exact ht

/-- The clauses and the name of a long form are determined. -/
theorem Sentence.unique (h : Sentence name ks cs) (h' : Sentence name' ls cs) :
    ks = ls ∧ name = name' := by
  -- the word at the beginning says which of the two forms the other reading has, too
  induction h generalizing ls with
  | @function v hv hne hn =>
    generalize hcs : functionWord ++ (v ++ name) = cs at h'
    cases h' with
    | function hv' hne' hn' =>
      exact ⟨rfl, eq_of_blanks_append hv hv' (trimStart_of_isIdentifier hn)
        (trimStart_of_isIdentifier hn') (List.append_cancel_left hcs)⟩
    | clause hw' hsep' hs' =>
      exact absurd hcs.symm (keyword_append_ne_functionWord_append
        (startsOutsideWord_append hw' hsep') (Text.startsOutsideWord_append hv hne name))
  | @clause k ks w cs hw hsep hs ih =>
    generalize hcs : k.keyword.toList ++ (w ++ cs) = ds at h'
    cases h' with
    | function hv' hne' hn' =>
      exact absurd hcs (keyword_append_ne_functionWord_append
        (startsOutsideWord_append hw hsep) (Text.startsOutsideWord_append hv' hne' name'))
    | clause hw' hsep' hs' =>
      obtain ⟨rfl, he⟩ := eq_of_keyword_append hcs (startsOutsideWord_append hw hsep)
        (startsOutsideWord_append hw' hsep')
      obtain rfl := eq_of_blanks_append hw hw' hs.trimStart hs'.trimStart he
      obtain ⟨rfl, rfl⟩ := ih hs'
      exact ⟨rfl, rfl⟩

/-! ### Reading words with blanks between them -/

/-- What words with blanks between them denote is the clauses among them and the name, if the
clauses go together. -/
theorem denotes_spaced_iff {name : String} (hn : isIdentifier name.toList = true)
    (b : Spacing (ks.length + 1)) :
    Denotes (spaced ks name b).toList ls name' ↔
      ls = ks ∧ name' = name.toList ∧ (ks.map Clause.category).Nodup ∧ ¬ Contradictory ks := by
  obtain ⟨cs, hs, hcs⟩ := exists_sentence_of_spaced hn b
  rw [hcs]
  constructor
  · intro h
    generalize ht : b.lead ++ cs = text at h
    cases h with
    | bare hid =>
      -- a name alone has no blank
      obtain ⟨c, hc, hblank⟩ := hs.exists_blank
      rw [← ht, isIdentifier_eq_false (List.mem_append_right b.lead hc) hblank] at hid
      cases hid
    | long hw hs' hd hc =>
      obtain rfl := eq_of_blanks_append b.allBlank_lead hw hs.trimStart hs'.trimStart ht
      obtain ⟨rfl, rfl⟩ := hs.unique hs'
      exact ⟨rfl, rfl, hd, hc⟩
  · rintro ⟨rfl, rfl, hd, hc⟩
    exact Denotes.long b.allBlank_lead hs hd hc

/-- Words with blanks between them are read as a specification if and only if the clauses among them
go together, and it has the name and what the clauses amount to. -/
theorem parse_spaced_eq_ok_iff {name : String} (hn : isIdentifier name.toList = true)
    (b : Spacing (ks.length + 1)) {s : Spec} :
    parse (spaced ks name b) = .ok s ↔
      s.name = name ∧ s.Collects ks ∧ (ks.map Clause.category).Nodup ∧ ¬ Contradictory ks := by
  constructor
  · intro h
    obtain ⟨ls, hls, hd⟩ := denotes_of_parse h
    obtain ⟨rfl, hname, hnodup, hcon⟩ := (denotes_spaced_iff hn b).mp hd
    exact ⟨String.toList_inj.mp hname, hls, hnodup, hcon⟩
  · rintro ⟨rfl, hs, hnodup, hcon⟩
    exact parse_of_denotes ((denotes_spaced_iff hn b).mpr ⟨rfl, rfl, hnodup, hcon⟩) hs

/-- **Neither order nor spacing has a meaning.** Take clauses in two orders, a name, and for each
order any blanks between the words. If the clauses are of different categories and do not contradict
each other, both texts are read as the same specification, which has the name and these clauses. If
not, both are refused. -/
theorem parse_spaced_perm {ks ls : List Clause} (h : ks.Perm ls) {name : String}
    (hn : isIdentifier name.toList = true) (b : Spacing (ks.length + 1))
    (b' : Spacing (ls.length + 1)) :
    ((ks.map Clause.category).Nodup ∧ ¬ Contradictory ks ∧
        ∃ s : Spec, s.name = name ∧ s.Collects ks ∧ parse (spaced ks name b) = .ok s ∧
          parse (spaced ls name b') = .ok s) ∨
      (¬ ((ks.map Clause.category).Nodup ∧ ¬ Contradictory ks) ∧
        ∃ r r', parse (spaced ks name b) = .error (.malformedSpec r) ∧
          parse (spaced ls name b') = .error (.malformedSpec r')) := by
  have hnodup : (ls.map Clause.category).Nodup ↔ (ks.map Clause.category).Nodup :=
    (h.map Clause.category).nodup_iff.symm
  have hcon : Contradictory ls ↔ Contradictory ks := ⟨fun hl => hl.perm h.symm, fun hk => hk.perm h⟩
  have hiff (s : Spec) : parse (spaced ls name b') = .ok s ↔ parse (spaced ks name b) = .ok s := by
    rw [parse_spaced_eq_ok_iff hn b', parse_spaced_eq_ok_iff hn b, hnodup, hcon]
    exact and_congr_right fun _ => and_congr_left fun _ =>
      ⟨fun hc => hc.perm h.symm, fun hc => hc.perm h⟩
  rcases parse_ok_or_malformed (spaced ks name b) with ⟨s, hs⟩ | ⟨r, hr⟩
  · obtain ⟨hname, hks, hd, hc⟩ := (parse_spaced_eq_ok_iff hn b).mp hs
    exact Or.inl ⟨hd, hc, s, hname, hks, hs, (hiff s).mpr hs⟩
  · rcases parse_ok_or_malformed (spaced ls name b') with ⟨s, hs⟩ | ⟨r', hr'⟩
    · cases hr.symm.trans ((hiff s).mp hs)
    · refine Or.inr ⟨fun ⟨hd, hc⟩ => ?_, r, r', hr, hr'⟩
      obtain ⟨s, -, -, hs⟩ := exists_parse_of_denotes
        ((denotes_spaced_iff hn b).mpr ⟨rfl, rfl, hd, hc⟩)
      cases hr.symm.trans hs

/-- The clauses `static` and `!private` in two orders, with single blanks between the words and with
a line break and a tab in front of each. -/
theorem parse_spaced_perm_staticNotPrivate :
    ∃ s : Spec, parse "static !private function f" = .ok s ∧
      parse "\n\t!private\n\tstatic\n\tfunction\n\tf" = .ok s := by
  have hgap : AllBlank ['\n', '\t'] := .of_all (by decide)
  have hperm := List.Perm.swap (Clause.access (.allBut .priv)) (Clause.flag .static true) []
  have hcon : ¬ Contradictory [.flag .static true, .access (.allBut .priv)] := by
    rintro ⟨a, f, ha, -⟩
    simp at ha
  rcases parse_spaced_perm hperm (by decide : isIdentifier "f".toList = true)
      (.uniform _ .nil .single (List.cons_ne_nil _ _))
      (.uniform _ hgap hgap (List.cons_ne_nil _ _)) with ⟨-, -, s, -, -, hs, hs'⟩ | ⟨h, -⟩
  · exact ⟨s, hs, hs'⟩
  · exact absurd ⟨by decide, hcon⟩ h

end Spec

end Conformance
