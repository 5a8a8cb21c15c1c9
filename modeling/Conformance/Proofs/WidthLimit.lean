import Conformance.Proofs.Commands
import Conformance.Proofs.Narrowing
import Conformance.Proofs.Verbatim

/-!
# No line of a report is too wide

Whatever a report shows and however narrow it is, none of its lines occupies more columns than it has,
when commands for styles are left out: not the rule, not the message, and not the table
(`Report.ofFailure_within_width`). The exception are joiners that join nothing: of two of them next to
each other the second one is measured as hidden and cut as if it were not, so that a line with them is
left too wide (`Report.not_within_width_joiners`); and where a joiner hides what is left of a tab, a cell
is filled up too far.
-/

namespace Conformance.Report

open Text (joiner cellWidth)

/-- In the texts that a report shows no joiner stands in front of another one, and in those that are
shown in a style none stands in front of a tab. -/
structure Content.JoinsSigns (f : Content) (showReason : Bool) : Prop where
  /-- The message. -/
  message : ∀ cs ∈ (shown f).message, ¬[joiner, joiner] <:+: cs
  /-- The subject, which has no style. -/
  subject : ¬[joiner, joiner] <:+: (shown f).subject
  /-- The expectation. -/
  description : ¬[joiner, joiner] <:+: (shown f).description ∧ ¬[joiner, '\t'] <:+: (shown f).description
  /-- What was found, if it is shown. -/
  reason : showReason = true →
    ¬[joiner, joiner] <:+: (shown f).reason ∧ ¬[joiner, '\t'] <:+: (shown f).reason

section Reports

variable {f : Content} {config : ReportConfig} {l : Line} {w : Nat} {showReason : Bool}

/-! ### Widths of lines -/

theorem cellWidth_ruleChar : cellWidth ruleChar = 1 := by decide +kernel

theorem cellWidth_of_mem_layoutChars {c : Char} (h : c ∈ layoutChars) : cellWidth c ≠ 0 := by
  have htitle : Text.IsAscii title := by decide
  simp only [layoutChars, List.mem_cons] at h
  rcases h with rfl | rfl | rfl | h
  · decide
  · rw [cellWidth_ellipsis]
    decide
  · rw [cellWidth_ruleChar]
    decide
  · rw [Text.cellWidth_of_isAscii (htitle c h)]
    decide

/-- All characters of the rule take columns. -/
theorem textWidth_crop_rule_le (w : Nat) : textWidth (crop w (rule title w)) ≤ w := by
  refine textWidth_crop_le_of_columns (fun c hc => cellWidth_of_mem_layoutChars ?_) w
  by_contra hnot
  exact List.count_eq_zero.mp (count_rule hnot w) hc

theorem textWidth_of_mem_messageLines (h : ∀ cs ∈ (shown f).message, ¬[joiner, joiner] <:+: cs) (hw : w ≠ 0)
    (hl : l ∈ messageLines w f.message) : textWidth l ≤ w := by
  rw [messageLines] at hl
  split at hl
  · cases hl
  · next hempty =>
    rcases List.mem_append.mp hl with hl | hl
    · refine textWidth_of_mem_wrap (h _ ?_) hw hl
      simp [shown, hempty]
    · exact List.mem_singleton.mp hl ▸ Nat.zero_le w

theorem isSteady_field {field : List Char} (h : Text.IsAscii field) : IsSteady [] (styled [] field) where
  style g hg := by
    obtain ⟨c, -, rfl⟩ := List.mem_map.mp hg
    exact ⟨rfl, rfl⟩
  joiners hjoiners := by
    rw [plain_styled] at hjoiners
    exact h.not_mem (by decide) (hjoiners.subset List.mem_cons_self)
  tabs hs := absurd rfl hs

theorem isSteady_tagged {tag text : String} (htag : Markup.IsLetterTag tag)
    (h : ¬[joiner, joiner] <:+: plain (tagged tag text) ∧ ¬[joiner, '\t'] <:+: plain (tagged tag text)) :
    IsSteady (Markup.tagStyle tag) (tagged tag text) :=
  ⟨Markup.style_of_mem_render_enclose htag text.toList, h.1, fun _ => h.2⟩

/-- The cells of the table are of one style each. -/
theorem Content.JoinsSigns.isSteady_of_mem_rows (h : f.JoinsSigns showReason) {r : Row}
    (hr : r ∈ rows f showReason) : IsSteady [] (styled [] r.field) ∧ ∃ s, IsSteady s r.value := by
  have hdescription := isSteady_tagged Markup.isLetterTag_green (shown_description ▸ h.description)
  have hsubject : IsSteady [] (Markup.render (Markup.escape f.subject.toList)) :=
    ⟨Markup.style_of_mem_render_escape _, shown_subject ▸ h.subject, fun hs => absurd rfl hs⟩
  rw [rows, List.cons_append, List.mem_cons, List.cons_append, List.mem_cons, List.nil_append] at hr
  rcases hr with rfl | rfl | hr
  · exact ⟨isSteady_field (by decide : Text.IsAscii "Subject".toList), _, hsubject⟩
  · exact ⟨isSteady_field (by decide : Text.IsAscii "Expected".toList), _, hdescription⟩
  · cases showReason with
    | false => cases hr
    | true =>
      obtain rfl := List.mem_singleton.mp hr
      have hreason := isSteady_tagged Markup.isLetterTag_yellow (shown_reason ▸ h.reason rfl)
      exact ⟨isSteady_field (by decide : Text.IsAscii "Actual".toList), _, hreason⟩

/-- The lines of a report as they are laid out, each with what it is. -/
theorem of_mem_lines (hl : l ∈ lines f config) :
    l = [] ∨ l = crop config.width (rule title config.width) ∨
    ∃ k, l = crop config.width k ∧
      (k ∈ messageLines config.width f.message ∨
        k ∈ tableLines config.width (rows f config.showReason)) := by
  have hempty : crop config.width [] = [] := crop_of_width_le (Nat.zero_le _)
  obtain ⟨k, hk, rfl⟩ := List.mem_map.mp hl
  simp only [layout, List.mem_append, List.mem_cons, List.not_mem_nil, or_false] at hk
  rcases hk with (((rfl | rfl | rfl) | hk) | hk) | rfl
  · exact .inl hempty
  · exact .inr (.inl rfl)
  · exact .inl hempty
  · exact .inr (.inr ⟨k, rfl, .inl hk⟩)
  · exact .inr (.inr ⟨k, rfl, .inr hk⟩)
  · exact .inl hempty

theorem textWidth_of_mem_lines (h : f.JoinsSigns config.showReason) (hl : l ∈ lines f config) :
    textWidth l ≤ config.width := by
  rcases of_mem_lines hl with rfl | rfl | ⟨k, rfl, hk⟩
  · exact Nat.zero_le _
  · exact textWidth_crop_rule_le _
  · refine Nat.le_trans (textWidth_crop_le _ k) ?_
    rcases hk with hk | hk
    · exact textWidth_of_mem_messageLines h.message (Nat.ne_of_gt config.width_pos) hk
    · obtain ⟨fieldWidth, valueWidth, hfits, r, hr, hk⟩ := exists_of_mem_tableLines hk
      obtain ⟨hfield, s, hvalue⟩ := h.isSteady_of_mem_rows hr
      exact Nat.le_trans (textWidth_of_mem_rowLines hfield hvalue hk) hfits

/-! ### Lines and line feeds -/

theorem newline_not_mem_of_mem_wrap {overflow : Overflow} {k : Line} (hk : k ∈ wrap w overflow l) :
    '\n' ∉ plain k := by
  obtain ⟨line, hline, part, hpart, rfl⟩ := exists_of_mem_wrap hk
  have hnone : (plain line).count '\n' = 0 := by
    rw [List.count_eq_zero]
    intro hmem
    obtain ⟨g, hg, hchar⟩ := List.mem_map.mp hmem
    exact not_newline_of_mem_splitLines hline g hg hchar
  have hcut := count_cutTo_le (c := '\n') (by decide) (by decide) w overflow (l := part)
  have hparts := (hpart.map Glyph.char).sublist.count_le '\n'
  have htabs := count_expandTabsFrom_le (c := '\n') (by decide) 0 [] false (l := line)
  refine List.count_eq_zero.mp (Nat.le_zero.mp (Nat.le_trans hcut ?_))
  rw [← hnone]
  exact Nat.le_trans hparts htabs

theorem newline_not_mem_blanks (n : Nat) : '\n' ∉ blanks n :=
  fun h => absurd (List.eq_of_mem_replicate h) (by decide)

theorem newline_not_mem_cellText {column : Nat} {cs : List Char} (h : IsCellText column l cs) : '\n' ∉ cs := by
  cases h with
  | blank => exact newline_not_mem_blanks column
  | @line k hk =>
    have hcell : '\n' ∉ plain k := by
      rw [cellLines] at hk
      split at hk
      · cases hk
      · obtain ⟨part, hpart, rfl⟩ := List.mem_map.mp hk
        refine List.count_eq_zero.mp (Nat.le_zero.mp (Nat.le_trans (count_fit_le (by decide) _ _) ?_))
        rw [Nat.le_zero, List.count_eq_zero, plain_append, plain_styled, List.mem_append, not_or]
        exact ⟨newline_not_mem_of_mem_wrap hpart, newline_not_mem_blanks _⟩
    simp [hcell]

/-- No line of a report has a line feed in it. -/
theorem newline_not_mem_of_mem_lines (hl : l ∈ lines f config) : '\n' ∉ plain l := by
  have hcrop {k : Line} (hk : '\n' ∉ plain k) : '\n' ∉ plain (crop config.width k) := fun hmem =>
    ((cutShort_crop config.width k).mem hmem).elim (by decide) hk
  rcases of_mem_lines hl with rfl | rfl | ⟨k, rfl, hk | hk⟩
  · exact List.not_mem_nil
  · exact hcrop (List.count_eq_zero.mp (count_rule (by decide) _))
  · refine hcrop ?_
    rw [messageLines] at hk
    split at hk
    · cases hk
    · rcases List.mem_append.mp hk with hk | hk
      · exact newline_not_mem_of_mem_wrap hk
      · exact List.mem_singleton.mp hk ▸ List.not_mem_nil
  · refine hcrop ?_
    obtain ⟨fieldWidth, valueWidth, -, r, -, hk⟩ := exists_of_mem_tableLines hk
    rcases plain_of_mem_rowLines hk with hblank | ⟨cs, ds, hplain, hcs, hds⟩
    · exact hblank ▸ newline_not_mem_blanks _
    · rw [hplain, List.mem_append, not_or]
      exact ⟨newline_not_mem_cellText hcs, newline_not_mem_cellText hds⟩

theorem newline_not_mem_of_painted {ts cs : List Char} (h : Painted ts cs) (hcs : '\n' ∉ cs) : '\n' ∉ ts := by
  induction h with
  | nil => exact hcs
  | char c h ih =>
    rw [List.mem_cons, not_or] at hcs ⊢
    exact ⟨hcs.1, ih hcs.2⟩
  | command s h ih =>
    have hcommand : '\n' ∉ command s := by
      simp only [command, List.cons_append, List.mem_cons, List.mem_append, List.not_mem_nil, or_false,
        not_or]
      exact ⟨by decide, by decide, fun hmem => absurd (isParameter_of_mem hmem) (by decide), by decide⟩
    rw [List.mem_append, not_or]
    exact ⟨hcommand, ih hcs⟩

/-- The lines of a report, as they are printed. -/
theorem splitOn_render (f : Content) (config : ReportConfig) :
    Text.splitOn '\n' (render f config).toList = (lines f config).map (print config.color) ++ [[]] := by
  have hprinted : render f config = linesText ((lines f config).map (print config.color)) := by
    rw [render, linesText, List.flatMap_map]
  rw [hprinted, splitOn_linesText]
  simp only [List.mem_flatten, List.mem_map, not_exists, not_and, forall_exists_index, and_imp,
    forall_apply_eq_imp_iff₂]
  exact fun l hl => newline_not_mem_of_painted (painted_print config.color l) (newline_not_mem_of_mem_lines hl)

/-! ### Reports -/

/-- **Reports respect their width.** There is a report of each failure, in each configuration, and if
joiners join signs in what it shows, each of its lines occupies at most as many columns as the report is
wide, without the commands for styles. -/
theorem ofFailure_within_width (w : World) (f : Content) (config : ReportConfig)
    (h : f.JoinsSigns config.showReason) :
    ∃ report, ofFailure w f.failure (.columns config) = .ok report ∧
      ∀ line ∈ Text.splitOn '\n' report.toList, Text.cells (withoutStyles line) ≤ config.width := by
  refine ⟨_, ofFailure_failure w f config, ?_⟩
  rw [splitOn_render]
  intro line hline
  rcases List.mem_append.mp hline with hline | hline
  · obtain ⟨l, hl, rfl⟩ := List.mem_map.mp hline
    exact Nat.le_trans (noWider_withoutStyles_print config.color l).cells_le (textWidth_of_mem_lines h hl)
  · exact List.mem_singleton.mp hline ▸ Nat.zero_le _

end Reports

/-- Texts with joined, wide and widened signs, tabs and long words. -/
def Content.family : Content :=
  ⟨"'👨\u200d👩\u200d👧'", "has public method\tresolve_everything()", "漢字 has no method\tresolve_everything",
    "\u2764\ufe0f see the documentation_of_everything"⟩

/-- Joined, wide and widened signs stay within sixteen columns, as do a tab and words that are longer
than that. -/
theorem ofFailure_within_width_family :
    let config : ReportConfig := { width := 16 }
    Content.family.JoinsSigns config.showReason ∧ ∃ report,
      ofFailure {} Content.family.failure (.columns config) = .ok report ∧
      ∀ line ∈ Text.splitOn '\n' report.toList, Text.cells (withoutStyles line) ≤ 16 := by
  intro config
  have h : Content.family.JoinsSigns config.showReason := by
    refine ⟨?_, by decide +kernel, by decide +kernel, fun _ => by decide +kernel⟩
    rintro cs hcs
    obtain rfl : plain (messageText Content.family.message) = cs := Option.some.inj hcs
    rw [plain_messageText]
    decide +kernel
  exact ⟨h, ofFailure_within_width {} Content.family config h⟩

/-- Texts of which the message begins with two joiners. -/
def Content.joined : Content := ⟨"s", "d", "r", "\u200d\u200dxxxxxxxxxxxxxxxxxxxxx"⟩

/-- The second of two joiners is measured as hidden by the first, but hides what follows it where the
message is cut, which is left too wide. -/
theorem not_within_width_joiners :
    let config : ReportConfig := { width := 20, color := false }
    ∃ report, ofFailure {} Content.joined.failure (.columns config) = .ok report ∧
      ∃ line ∈ Text.splitOn '\n' report.toList, 20 < Text.cells (withoutStyles line) := by
  intro config
  refine ⟨_, ofFailure_failure {} Content.joined config, ?_⟩
  rw [splitOn_render]
  have hmessage : (messageLines 20 Content.joined.message).any
      (fun l => 20 < Text.cells (withoutStyles (print false (crop 20 l)))) = true := by decide +kernel
  obtain ⟨l, hl, hwide⟩ := List.any_eq_true.mp hmessage
  have hmem : crop 20 l ∈ lines Content.joined config := by
    refine List.mem_map_of_mem ?_
    simp [layout, config, hl]
  exact ⟨_, List.mem_append_left _ (List.mem_map_of_mem hmem), of_decide_eq_true hwide⟩

/-- Where a joiner hides the blank in place of a tab, a selector behind it widens what stands in front of
both in the text of a cell, but nothing in the run that it begins. -/
example : (tableLines 21 (rows ⟨"s", "12345678\u200d\t\ufe0f", "r", ""⟩ true)).any
    (fun l => 21 < textWidth (crop 21 l)) = true := by decide +kernel

end Conformance.Report
