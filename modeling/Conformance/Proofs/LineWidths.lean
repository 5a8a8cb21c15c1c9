import Conformance.Proofs.Cells
import Conformance.Proofs.Provenance
import Mathlib.Data.List.Chain

/-!
# How wide lines are

Lines that a text is wrapped into are as wide as allowed and no wider, and cutting a line never makes it
wider (`Report.textWidth_crop_le`). A line is filled up by its width run by run, which may fall short of
the width of its text: a selector in a run of its own widens nothing. `Report.RunsApart` says that no run
begins so, and then neither measure falls short (`Report.textWidth_le_width`). Runs begin within a line
of a cell only behind tabs, and then they are apart unless a joiner hides what is left of the tab
(`Report.runsApart_expandTabs`).
-/

namespace Conformance.Report

open Text (joiner cellWidth CutShort)

variable {w : Nat} {l k m : Line} {g : Glyph}

/-! ### Cutting lines -/

theorem plain_restyle_of_cutShort {cs : List Char} (h : CutShort cs (plain l)) : plain (restyle cs l) = cs := by
  have hlength := h.length_le
  rw [plain, List.length_map] at hlength
  rw [plain_restyle, List.take_of_length_le hlength]

theorem cutShort_cropRuns (w : Nat) (rs : List Line) : CutShort (plain (cropRuns w rs)) (plain rs.flatten) := by
  induction rs generalizing w with
  | nil => exact .refl []
  | cons r rs ih =>
    rw [cropRuns, List.flatten_cons, plain_append]
    split
    · rw [plain_append]
      exact (ih _).append_left _
    · have hcut := Text.cutShort_cut w (plain r)
      rw [plain_restyle_of_cutShort hcut]
      exact hcut.append_right _

theorem cutShort_crop (w : Nat) (l : Line) : CutShort (plain (crop w l)) (plain l) := by
  rw [crop]
  split
  · exact .refl _
  · have hcut := cutShort_cropRuns w (runs l)
    rwa [flatten_runs] at hcut

/-- A line that is cut becomes no wider. -/
theorem textWidth_crop_le (w : Nat) (l : Line) : textWidth (crop w l) ≤ textWidth l :=
  (cutShort_crop w l).noWider.cells_le

theorem textWidth_cropRuns_le {rs : List Line} (h : ∀ c ∈ plain rs.flatten, cellWidth c ≠ 0) (w : Nat) :
    textWidth (cropRuns w rs) ≤ w := by
  induction rs generalizing w with
  | nil => exact Nat.zero_le _
  | cons r rs ih =>
    rw [List.flatten_cons, plain_append, List.forall_mem_append] at h
    rw [cropRuns]
    split
    · have hrest := ih h.2 (w - textWidth r)
      have hcolumns := (cutShort_cropRuns (w - textWidth r) rs).columns h.2
      have hsum := Text.cells_append_le_of_columns hcolumns (plain r)
      rw [← plain_append, ← textWidth, ← textWidth, ← textWidth] at hsum
      omega
    · rw [textWidth, plain_restyle_of_cutShort (Text.cutShort_cut w (plain r))]
      refine Text.cells_cut_le (fun hstart => ?_) w
      exact h.1 joiner (hstart.subset List.mem_cons_self) (by decide)

/-- A line whose characters all take columns is cut to the width. -/
theorem textWidth_crop_le_of_columns (h : ∀ c ∈ plain l, cellWidth c ≠ 0) (w : Nat) :
    textWidth (crop w l) ≤ w := by
  rw [crop]
  split
  · rwa [← width_eq_textWidth fun g hg => Text.isConnector_of_cellWidth (h _ (List.mem_map_of_mem hg))]
  · exact textWidth_cropRuns_le (by rwa [flatten_runs]) w

theorem textWidth_append_blanks_le (l : Line) (s : Style) (n : Nat) :
    textWidth (l ++ run s (blanks n)) ≤ textWidth l + n := by
  rw [textWidth, plain_append, plain_run]
  exact Text.cells_append_blanks_le _ n

/-! ### Wrapped lines -/

theorem infix_of_mem_splitLines {line : Line} (h : line ∈ splitLines l) : line <:+: l := by
  suffices ∀ k ks, splitLines l = k :: ks → k <+: l ∧ ∀ line ∈ ks, line <:+: l by
    obtain ⟨k, ks, hk⟩ := List.exists_cons_of_ne_nil (splitLines_ne_nil l)
    obtain ⟨hfirst, hrest⟩ := this k ks hk
    rcases List.mem_cons.mp (hk ▸ h) with rfl | hmem
    · exact hfirst.isInfix
    · exact hrest line hmem
  clear h
  induction l with
  | nil =>
    rintro k ks ⟨⟩
    exact ⟨List.prefix_rfl, by simp⟩
  | cons g gs ih =>
    obtain ⟨j, js, hj⟩ := List.exists_cons_of_ne_nil (splitLines_ne_nil gs)
    obtain ⟨hfirst, hrest⟩ := ih j js hj
    have hcons {line : Line} (hline : line <:+: gs) : line <:+: g :: gs := List.infix_cons hline
    intro k ks hk
    rw [splitLines, hj] at hk
    split at hk
    · cases hk
      refine ⟨List.nil_prefix, List.forall_mem_cons.mpr ⟨hcons hfirst.isInfix, fun line hline => ?_⟩⟩
      exact hcons (hrest line hline)
    · cases hk
      exact ⟨(List.prefix_cons_inj g).mpr hfirst, fun line hline => hcons (hrest line hline)⟩

theorem infix_of_mem_breakLine {w : Nat} {overflow : Overflow} (h : k ∈ breakLine w overflow l) : k <:+: l :=
  flatten_breakLine w overflow l ▸ List.infix_of_mem_flatten h

/-- The lines that a text is wrapped into are parts of its lines without tabs, cut to the width. -/
theorem exists_of_mem_wrap {overflow : Overflow} (h : k ∈ wrap w overflow l) :
    ∃ line ∈ splitLines l, ∃ part, part <:+: expandTabs line ∧ k = cutTo w overflow part := by
  obtain ⟨line, hline, hmem⟩ := List.mem_flatMap.mp h
  obtain ⟨part, hpart, rfl⟩ := List.mem_map.mp hmem
  exact ⟨line, hline, _, (List.take_prefix _ part).isInfix.trans (infix_of_mem_breakLine hpart), rfl⟩

theorem cellWidth_ellipsis : cellWidth ellipsis = 1 := by decide +kernel

/-- A text is cut to the width, unless it begins with two joiners. -/
theorem textWidth_cutTo_le (h : ¬[joiner, joiner] <+: plain l) (hw : w ≠ 0) (overflow : Overflow) :
    textWidth (cutTo w overflow l) ≤ w := by
  cases overflow with
  | fold =>
    rw [cutTo]
    split
    · assumption
    · rw [textWidth, plain_restyle_of_cutShort (Text.cutShort_cut w (plain l))]
      exact Text.cells_cut_le h w
  | ellipsis =>
    rw [cutTo, shorten]
    split
    · assumption
    · rw [textWidth, plain_restyle]
      have hcut := Text.cells_cut_le h (w - 1)
      have hconcat := Text.cells_concat_le (c := ellipsis) (by rw [cellWidth_ellipsis]; decide)
        (Text.cut (w - 1) (plain l))
      have htake := (CutShort.take l.length (Text.cut (w - 1) (plain l) ++ [ellipsis])).noWider.cells_le
      rw [cellWidth_ellipsis] at hconcat
      omega

/-! ### Tabs -/

theorem head?_of_head?_expandTabsFrom {c : Char} (hc : c ≠ ' ') {column : Nat} {part : List Char}
    {afterTab : Bool} (h : (plain (expandTabsFrom column part afterTab l)).head? = some c) : (plain l).head? = some c := by
  cases l with
  | nil => cases h
  | cons g gs =>
    rw [expandTabsFrom] at h
    dsimp only at h
    split at h
    · exact absurd (Option.some.inj h).symm hc
    · exact h

/-- Replacing tabs brings only blanks behind other characters. -/
theorem pair_infix_of_expandTabsFrom {c d : Char} (hc : c ≠ ' ') (hd : d ≠ ' ') {column : Nat}
    {part : List Char} {afterTab : Bool}
    (h : [c, d] <:+: plain (expandTabsFrom column part afterTab l)) : [c, d] <:+: plain l := by
  induction l generalizing column part afterTab with
  | nil => exact h
  | cons g gs ih =>
    rw [expandTabsFrom] at h
    dsimp only at h
    split at h
    · have hblanks (n : Nat) (s : Style) {k : Line}
          (hk : [c, d] <:+: plain (List.replicate n ⟨' ', s, false⟩ ++ k)) : [c, d] <:+: plain k := by
        induction n with
        | zero => exact hk
        | succ n ih =>
          rw [List.replicate_succ, List.cons_append, plain_cons, List.infix_cons_iff] at hk
          rcases hk with hstart | hk
          · exact absurd (List.cons_prefix_cons.mp hstart).1 hc
          · exact ih hk
      rw [List.cons_append, plain_cons, List.infix_cons_iff] at h
      rcases h with hstart | h
      · exact absurd (List.cons_prefix_cons.mp hstart).1 hc
      · exact (ih (hblanks _ _ h)).trans (List.suffix_cons _ _).isInfix
    · rw [plain_cons, List.infix_cons_iff] at h
      rcases h with hstart | h
      · obtain ⟨rfl, ds, hds⟩ := List.cons_prefix_cons.mp hstart
        have hhead : (plain gs).head? = some d := head?_of_head?_expandTabsFrom hd (by rw [← hds]; rfl)
        obtain ⟨es, hes⟩ := List.head?_eq_some_iff.mp hhead
        exact ⟨[], es, by rw [plain_cons, hes]; rfl⟩
      · exact (ih h).trans (List.suffix_cons _ _).isInfix

/-- Wrapped lines fit, unless two joiners stand next to each other. -/
theorem textWidth_of_mem_wrap {overflow : Overflow} (h : ¬[joiner, joiner] <:+: plain l) (hw : w ≠ 0)
    (hk : k ∈ wrap w overflow l) : textWidth k ≤ w := by
  obtain ⟨line, hline, part, hpart, rfl⟩ := exists_of_mem_wrap hk
  refine textWidth_cutTo_le (fun hstart => h ?_) hw overflow
  have hexpanded : [joiner, joiner] <:+: plain (expandTabs line) :=
    hstart.isInfix.trans (hpart.map Glyph.char)
  exact (pair_infix_of_expandTabsFrom (by decide) (by decide) hexpanded).trans
    ((infix_of_mem_splitLines hline).map Glyph.char)

/-! ### Runs that are apart -/

/-- Each run begins with a character that takes a column, or behind a blank that no joiner hides. -/
def RunsApart (l : Line) : Prop :=
  ∀ k a b m, l = k ++ a :: b :: m → sameRun a b = false →
    cellWidth b.char ≠ 0 ∨ (a.char = ' ' ∧ (plain k).getLast? ≠ some joiner)

namespace RunsApart

theorem of_sameRun {s : Style} (h : ∀ g ∈ l, g.style = s ∧ g.starts = false) : RunsApart l := by
  rintro k a b m rfl hrun
  have ha := h a (by simp)
  have hb := h b (by simp)
  simp [sameRun, ha, hb] at hrun

/-- Parts of a line have its runs. -/
theorem of_isInfix (h : RunsApart l) (hk : k <:+: l) : RunsApart k := by
  obtain ⟨front, back, rfl⟩ := hk
  rintro xs a b ys rfl hrun
  have hsplit := h (front ++ xs) a b (ys ++ back) (by simp) hrun
  refine hsplit.imp_right fun ⟨ha, hlast⟩ => ⟨ha, fun hjoiner => hlast ?_⟩
  rw [plain_append, List.getLast?_append, hjoiner, Option.some_or]

/-- Characters that take columns may follow in any runs. -/
theorem append (h : RunsApart k) (hm : ∀ g ∈ m, cellWidth g.char ≠ 0) : RunsApart (k ++ m) := by
  intro xs a b ys hsplit hrun
  rcases List.append_eq_append_iff.mp hsplit with ⟨zs, rfl, rfl⟩ | ⟨zs, rfl, hback⟩
  · exact .inl (hm b (by simp))
  · -- Unless both glyphs are among the first ones, the second is among the others.
    match zs, hback with
    | [], hback =>
      have hmem : b ∈ a :: b :: ys := by simp
      exact .inl (hm b (by rwa [hback] at hmem))
    | [_], hback =>
      have hmem : b ∈ b :: ys := List.mem_cons_self
      exact .inl (hm b (by rwa [(List.cons.inj hback).2] at hmem))
    | a' :: b' :: zs, hback =>
      obtain ⟨ha, hback⟩ := List.cons.inj hback
      obtain ⟨hb, -⟩ := List.cons.inj hback
      exact h xs a b zs (by rw [ha, hb]) hrun

/-- A blank may stand in front. -/
theorem blank_cons (h : RunsApart l) (hg : g.char = ' ') : RunsApart (g :: l) := by
  intro xs a b ys hsplit hrun
  cases xs with
  | nil =>
    obtain ⟨rfl, -⟩ := List.cons.inj hsplit
    exact .inr ⟨hg, by simp⟩
  | cons x xs =>
    obtain ⟨rfl, hrest⟩ := List.cons.inj hsplit
    refine (h xs a b ys hrest hrun).imp_right fun ⟨ha, hlast⟩ => ⟨ha, fun hjoiner => hlast ?_⟩
    cases xs with
    | nil => exact absurd (hg.symm.trans (Option.some.inj hjoiner)) (by decide)
    | cons y xs => exact hjoiner

/-- Any character may stand in front if no run begins behind it, and none behind the next character if
it is a joiner. -/
theorem cons (h : RunsApart l) (hfirst : ∀ a ∈ l.head?, sameRun g a = true)
    (hsecond : g.char = joiner → ∀ a b m, l = a :: b :: m → sameRun a b = true) : RunsApart (g :: l) := by
  intro xs a b ys hsplit hrun
  cases xs with
  | nil =>
    obtain ⟨rfl, rfl⟩ := List.cons.inj hsplit
    exact absurd (hfirst b rfl) (by simp [hrun])
  | cons x xs =>
    obtain ⟨rfl, hrest⟩ := List.cons.inj hsplit
    refine (h xs a b ys hrest hrun).imp_right fun ⟨ha, hlast⟩ => ⟨ha, fun hjoiner => ?_⟩
    cases xs with
    | nil => exact absurd (hsecond (Option.some.inj hjoiner) a b ys hrest) (by simp [hrun])
    | cons y xs => exact hlast hjoiner

end RunsApart

/-- Two runs that follow each other. -/
def Adjacent (r s : Line) : Prop := ∀ a ∈ r.getLast?, ∀ b ∈ s.head?, sameRun a b = false

theorem ne_nil_of_mem_runs {r : Line} (h : r ∈ runs l) : r ≠ [] := by
  induction l with
  | nil => cases h
  | cons g l ih =>
    rw [runs, List.foldr_cons, ← runs, putInFront.eq_def] at h
    split at h
    · next heq =>
      rw [heq] at ih
      split at h
      · rcases List.mem_cons.mp h with rfl | h
        · exact List.cons_ne_nil _ _
        · exact ih (List.mem_cons_of_mem _ h)
      · rcases List.mem_cons.mp h with rfl | h
        · exact List.cons_ne_nil _ _
        · exact ih h
    · rcases List.mem_cons.mp h with rfl | h
      · exact List.cons_ne_nil _ _
      · exact ih h

/-- Runs end where a glyph does not belong to the run of the one in front of it. -/
theorem isChain_runs (l : Line) : (runs l).IsChain Adjacent := by
  induction l with
  | nil => exact .nil
  | cons g l ih =>
    rw [runs, List.foldr_cons, ← runs, putInFront.eq_def]
    split
    · next h r rs heq =>
      rw [heq] at ih
      split
      · cases rs with
        | nil => exact .singleton _
        | cons s rs =>
          obtain ⟨hadjacent, hrest⟩ := List.isChain_cons_cons.mp ih
          exact List.isChain_cons_cons.mpr ⟨hadjacent, hrest⟩
      · next hrun =>
        refine List.isChain_cons_cons.mpr ⟨?_, ih⟩
        rintro a ⟨⟩ b ⟨⟩
        exact Bool.not_eq_true _ ▸ hrun
    · next heq =>
      cases hruns : runs l with
      | nil => exact .singleton _
      | cons r rs =>
        have hr : r ≠ [] := ne_nil_of_mem_runs (hruns ▸ List.mem_cons_self)
        obtain ⟨h, r, rfl⟩ := List.exists_cons_of_ne_nil hr
        exact absurd hruns (heq h r rs)

theorem textWidth_flatten_le {rs : List Line} (hne : ∀ r ∈ rs, r ≠ []) (hchain : rs.IsChain Adjacent)
    (h : RunsApart rs.flatten) : textWidth rs.flatten ≤ runsWidth rs := by
  induction rs with
  | nil => exact Nat.le_refl _
  | cons r rs ih =>
    obtain ⟨hr, hrs⟩ := List.forall_mem_cons.mp hne
    have hrest : textWidth rs.flatten ≤ runsWidth rs :=
      ih hrs hchain.tail (h.of_isInfix (List.suffix_append r rs.flatten).isInfix)
    have hsum : textWidth (r :: rs).flatten ≤ textWidth r + textWidth rs.flatten := by
      cases rs with
      | nil => simp
      | cons s rs =>
        obtain ⟨hadjacent, -⟩ := List.isChain_cons_cons.mp hchain
        obtain ⟨k, a, rfl⟩ := (List.eq_nil_or_concat' r).resolve_left hr
        obtain ⟨b, s, rfl⟩ := List.exists_cons_of_ne_nil (hrs s List.mem_cons_self)
        have hrun : sameRun a b = false := hadjacent a (by simp) b rfl
        have hapart : Text.StandsApart (plain (k ++ [a])) (plain ((b :: s) :: rs).flatten) := by
          rw [List.flatten_cons, List.cons_append, plain_cons]
          rcases h k a b (s ++ rs.flatten) (by simp) hrun with hb | ⟨ha, hlast⟩
          · exact .column _ _ hb
          · rw [plain_append, plain_cons, plain_nil, ha]
            exact .blank _ hlast
        rw [textWidth, List.flatten_cons, plain_append]
        exact Text.cells_append_le hapart
    exact Nat.le_trans hsum (Nat.add_le_add_left hrest _)

/-- A line whose runs are apart is not wider than its runs. -/
theorem textWidth_le_width (h : RunsApart l) : textWidth l ≤ width l := by
  have hle := textWidth_flatten_le (fun r hr => ne_nil_of_mem_runs hr) (isChain_runs l) (by rwa [flatten_runs])
  rwa [flatten_runs] at hle

/-! ### Texts of cells -/

/-- The text is of one style, in which joiners stand neither next to each other nor, if it is no default
style, in front of tabs. -/
structure IsSteady (s : Style) (l : Line) : Prop where
  /-- All of it has this style, and no run begins in it. -/
  style : ∀ g ∈ l, g.style = s ∧ g.starts = false
  /-- No joiner stands in front of another one. -/
  joiners : ¬[joiner, joiner] <:+: plain l
  /-- No joiner stands in front of a tab, where tabs end runs. -/
  tabs : s ≠ [] → ¬[joiner, '\t'] <:+: plain l

variable {s : Style}

theorem IsSteady.of_isInfix (h : IsSteady s l) (hk : k <:+: l) : IsSteady s k where
  style g hg := h.style g (hk.subset hg)
  joiners hjoiners := h.joiners (hjoiners.trans (hk.map Glyph.char))
  tabs hs htabs := h.tabs hs (htabs.trans (hk.map Glyph.char))

/-- In the default style no run begins behind a tab. -/
theorem style_expandTabsFrom (h : ∀ g ∈ l, g.style = [] ∧ g.starts = false) (column : Nat) (part : List Char)
    (afterTab : Bool) : ∀ g ∈ expandTabsFrom column part afterTab l, g.style = [] ∧ g.starts = false := by
  induction l generalizing column part afterTab with
  | nil => exact fun g hg => absurd hg List.not_mem_nil
  | cons g gs ih =>
    obtain ⟨⟨hstyle, hstarts⟩, hgs⟩ := List.forall_mem_cons.mp h
    rw [expandTabsFrom]
    dsimp only
    split
    · simp only [List.cons_append, List.forall_mem_cons, List.forall_mem_append]
      refine ⟨⟨hstyle, by simp [hstyle, hstarts]⟩, fun b hb => ?_, ih hgs _ _ _⟩
      rw [List.eq_of_mem_replicate hb]
      exact ⟨hstyle, rfl⟩
    · exact List.forall_mem_cons.mpr ⟨⟨hstyle, by simp [hstyle, hstarts]⟩, ih hgs _ _ _⟩

/-- Behind a character that is no tab goes on its run. -/
theorem style_of_head?_expandTabsFrom (h : ∀ g ∈ l, g.style = s ∧ g.starts = false) {column : Nat}
    {part : List Char} {b : Glyph} (hb : b ∈ (expandTabsFrom column part false l).head?) :
    b.style = s ∧ b.starts = false := by
  cases l with
  | nil => cases hb
  | cons g gs =>
    obtain ⟨hg, -⟩ := List.forall_mem_cons.mp h
    rw [expandTabsFrom] at hb
    dsimp only at hb
    split at hb
    · cases hb
      simp [hg]
    · cases hb
      simp [hg]

theorem runsApart_expandTabsFrom (h : IsSteady s l) (hs : s ≠ []) (column : Nat) (part : List Char)
    (afterTab : Bool) : RunsApart (expandTabsFrom column part afterTab l) := by
  induction l generalizing column part afterTab with
  | nil => exact RunsApart.of_sameRun (s := []) (by simp [expandTabsFrom])
  | cons g gs ih =>
    have hgs : IsSteady s gs := h.of_isInfix (List.suffix_cons g gs).isInfix
    have hstyle : g.style = s := (h.style g List.mem_cons_self).1
    rw [expandTabsFrom]
    dsimp only
    split
    · have hblanks (n : Nat) {k : Line} (hk : RunsApart k) :
          RunsApart (List.replicate n ⟨' ', g.style, false⟩ ++ k) := by
        induction n with
        | zero => exact hk
        | succ n ih => exact ih.blank_cons rfl
      exact (hblanks _ (ih hgs _ _ _)).blank_cons rfl
    · refine (ih hgs _ _ _).cons ?_ fun hjoiner a b m hrest => ?_
      · intro a ha
        obtain ⟨ha, hstarts⟩ := style_of_head?_expandTabsFrom hgs.style ha
        simp [sameRun, hstyle, ha, hstarts]
      · -- A joiner is in front of no tab, so that the next glyph is what it was and its run goes on.
        cases gs with
        | nil => cases hrest
        | cons g' gs =>
          have htab : g'.char ≠ '\t' := by
            intro htab
            refine h.tabs hs ⟨[], plain gs, ?_⟩
            rw [plain_cons, plain_cons, htab]
            exact congrArg (· :: _) (Eq.symm hjoiner)
          obtain ⟨hg', hgs'⟩ := List.forall_mem_cons.mp hgs.style
          rw [expandTabsFrom, if_neg htab] at hrest
          obtain ⟨rfl, hbehind⟩ := List.cons.inj hrest
          obtain ⟨hb, hstarts⟩ := style_of_head?_expandTabsFrom hgs' (b := b) (by rw [hbehind]; rfl)
          simp [sameRun, hg', hb, hstarts]

/-- Where tabs have been replaced, runs are apart. -/
theorem runsApart_expandTabs (h : IsSteady s l) : RunsApart (expandTabs l) := by
  by_cases hs : s = []
  · subst hs
    exact .of_sameRun (style_expandTabsFrom h.style _ _ _)
  · exact runsApart_expandTabsFrom h hs _ _ _

theorem restyle_of_plain_eq {xs ys : List Char} (h : plain l = xs ++ ys) (zs : List Char) :
    restyle (xs ++ zs) l = l.take xs.length ++ restyle zs (l.drop xs.length) := by
  induction xs generalizing l with
  | nil => rfl
  | cons x xs ih =>
    cases l with
    | nil => cases h
    | cons g l =>
      obtain ⟨rfl, hrest⟩ := List.cons.inj h
      exact congrArg (g :: ·) (ih hrest)

theorem char_mem_of_mem_restyle {cs : List Char} (h : g ∈ restyle cs l) : g.char ∈ cs := by
  obtain ⟨e, he, rfl⟩ := List.mem_map.mp h
  exact (List.of_mem_zip he).1

/-- Runs stay apart where a line is cut short and characters that take columns follow. -/
theorem RunsApart.restyle_append (h : RunsApart l) {cs : List Char} (hcut : CutShort cs (plain l))
    {zs : List Char} (hzs : ∀ c ∈ zs, cellWidth c ≠ 0) : RunsApart (restyle (cs ++ zs) l) := by
  obtain ⟨xs, ys, us, hplain, rfl, hus⟩ : ∃ xs ys us, plain l = xs ++ ys ∧ cs = xs ++ us ∧
      ∀ c ∈ us, cellWidth c ≠ 0 := by
    generalize hds : plain l = ds at hcut
    cases hcut with
    | start xs ys => exact ⟨_, ys, [], rfl, (List.append_nil _).symm, by simp⟩
    | blank xs ys =>
      refine ⟨xs, _, [' '], rfl, rfl, fun c hc => ?_⟩
      rw [List.mem_singleton.mp hc]
      decide
  rw [List.append_assoc, restyle_of_plain_eq hplain]
  refine (h.of_isInfix (List.take_prefix _ _).isInfix).append fun g hg => ?_
  rcases List.mem_append.mp (char_mem_of_mem_restyle hg) with hmem | hmem
  · exact hus _ hmem
  · exact hzs _ hmem

theorem RunsApart.shorten (h : RunsApart l) (w : Nat) : RunsApart (shorten w l) := by
  rw [Report.shorten]
  split
  · exact h
  · refine h.restyle_append (Text.cutShort_cut _ _) fun c hc => ?_
    rw [List.mem_singleton.mp hc, cellWidth_ellipsis]
    decide

/-- A line whose runs are apart is filled up to the width, or cut to it. -/
theorem textWidth_fit_le (h : RunsApart l) (hl : textWidth l ≤ w) : textWidth (fit w l) ≤ w := by
  rw [fit]
  split
  · exact Nat.le_trans (textWidth_crop_le w l) hl
  · have hblanks := textWidth_append_blanks_le l [] (w - width l)
    have hwidth := textWidth_le_width h
    omega

theorem runsApart_of_mem_wrap (h : IsSteady s l) (hk : k ∈ wrap w .ellipsis l) : RunsApart k := by
  obtain ⟨line, hline, part, hpart, rfl⟩ := exists_of_mem_wrap hk
  exact ((runsApart_expandTabs (h.of_isInfix (infix_of_mem_splitLines hline))).of_isInfix hpart).shorten w

/-- A line that is filled up by the width of its text is filled up again, or cut, by its width run by
run. -/
theorem textWidth_fit_filled_le (h : RunsApart l) (hl : textWidth l ≤ w) :
    textWidth (fit w (l ++ styled [] (blanks (w - textWidth l)))) ≤ w := by
  refine textWidth_fit_le (h.append fun g hg => ?_) ?_
  · obtain ⟨c, hc, rfl⟩ := List.mem_map.mp hg
    rw [List.eq_of_mem_replicate hc]
    decide
  · have hblanks := Text.cells_append_blanks_le (plain l) (w - textWidth l)
    rw [← textWidth] at hblanks
    rw [textWidth, plain_append, plain_styled, blanks]
    omega

/-- Each line of a cell fits in the column, with the blanks around it. -/
theorem textWidth_of_mem_cellLines {column : Nat} (h : IsSteady s l) (hk : k ∈ cellLines column l) :
    textWidth k + padding ≤ column := by
  rw [cellLines] at hk
  split at hk
  · cases hk
  · next hw =>
    obtain ⟨part, hpart, rfl⟩ := List.mem_map.mp hk
    have hfilled := textWidth_fit_filled_le (runsApart_of_mem_wrap h hpart)
      (textWidth_of_mem_wrap h.joiners hw hpart)
    omega

end Conformance.Report
