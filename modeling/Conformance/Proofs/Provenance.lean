import Conformance.Proofs.Markup
import Conformance.Report
import Mathlib.Algebra.Ring.Nat
import Mathlib.Data.List.Basic

/-!
# Where the characters of a report come from

Laying out a report moves characters, cuts lines and drops blanks. It brings in the blanks between
and behind texts, ellipses, the rule with its title and the names of the fields, and nothing else: any
other character occurs in a report at most as often as in the texts that are shown
(`Report.occurrences_lines_le`). What is shown for a text may have signs of emoji and a closing tag in
it that the text does not have. A character that neither these nor layout bring in comes from the texts
alone (`Report.not_mem_lines`).
-/

namespace Conformance

/-! ### Cutting texts -/

namespace Text

variable {c : Char}

theorem count_takeColumns_le (hc : c ≠ ' ') (w : Nat) (gs : List Grapheme) :
    (takeColumns w gs).count c ≤ (gs.flatMap Grapheme.chars).count c := by
  induction gs generalizing w with
  | nil => simp [takeColumns]
  | cons g gs ih =>
    rw [takeColumns, List.flatMap_cons, List.count_append]
    split
    · simp
    · split
      · rw [List.count_append]
        exact Nat.add_le_add_left (ih _) _
      · rw [List.count_eq_zero_of_not_mem (by simp [hc])]
        omega

/-- A text that is cut has no new characters but blanks. -/
theorem count_cut_le (hc : c ≠ ' ') (w : Nat) (cs : List Char) :
    (cut w cs).count c ≤ cs.count c := by
  unfold cut
  split
  · simp
  · split
    · exact Nat.le_refl _
    · calc (takeColumns w (graphemes cs)).count c
          ≤ ((graphemes cs).flatMap Grapheme.chars).count c := count_takeColumns_le hc w _
        _ = cs.count c := by rw [flatMap_chars_graphemes]

end Text

namespace Report

/-! ### Counting characters in lines -/

/-- How often a character occurs in lines. -/
def occurrences (c : Char) (ls : List Line) : Nat := (plain ls.flatten).count c

section Counting

variable {c : Char} {ls ks : List Line} {l : Line}

@[simp] theorem occurrences_nil : occurrences c [] = 0 := rfl

@[simp] theorem occurrences_cons :
    occurrences c (l :: ls) = (plain l).count c + occurrences c ls := by
  simp [occurrences]

@[simp] theorem occurrences_append :
    occurrences c (ls ++ ks) = occurrences c ls + occurrences c ks := by
  simp [occurrences]

theorem occurrences_eq_count (c : Char) (ls : List Line) :
    occurrences c ls = (ls.map plain).flatten.count c := by
  induction ls with
  | nil => rfl
  | cons l ls ih => rw [occurrences_cons, ih, List.map_cons, List.flatten_cons, List.count_append]

theorem occurrences_map_le {f : Line → Line} (h : ∀ l, (plain (f l)).count c ≤ (plain l).count c) :
    occurrences c (ls.map f) ≤ occurrences c ls := by
  induction ls with
  | nil => exact Nat.le_refl _
  | cons l ls ih =>
    rw [List.map_cons, occurrences_cons, occurrences_cons]
    exact Nat.add_le_add (h l) ih

theorem occurrences_flatMap_le {α : Type} {f : α → List Line} {n : α → Nat}
    (h : ∀ a, occurrences c (f a) ≤ n a) (xs : List α) :
    occurrences c (xs.flatMap f) ≤ (xs.map n).sum := by
  induction xs with
  | nil => exact Nat.le_refl _
  | cons x xs ih =>
    rw [List.flatMap_cons, occurrences_append, List.map_cons, List.sum_cons]
    exact Nat.add_le_add (h x) ih

theorem occurrences_replicate_of_not_mem {n : Nat} (h : c ∉ plain l) :
    occurrences c (List.replicate n l) = 0 := by
  induction n with
  | zero => rfl
  | succ n ih => rw [List.replicate_succ, occurrences_cons, ih, List.count_eq_zero_of_not_mem h]

theorem count_blanks (hc : c ≠ ' ') (n : Nat) : (blanks n).count c = 0 :=
  List.count_eq_zero_of_not_mem fun h => hc (List.eq_of_mem_replicate h)

theorem count_plain_take_le (n : Nat) : (plain (l.take n)).count c ≤ (plain l).count c :=
  ((List.take_sublist n l).map Glyph.char).count_le c

theorem plain_restyle (cs : List Char) (l : Line) : plain (restyle cs l) = cs.take l.length := by
  rw [restyle, plain, List.map_map]
  induction cs generalizing l with
  | nil => simp
  | cons c cs ih =>
    cases l with
    | nil => simp
    | cons g l => simpa using ih l

theorem count_restyle_le (cs : List Char) : (plain (restyle cs l)).count c ≤ cs.count c := by
  rw [plain_restyle]
  exact (List.take_sublist _ _).count_le c

end Counting

/-! ### Wrapping -/

section Wrapping

variable {c : Char} {l : Line}

theorem occurrences_splitLines_le : occurrences c (splitLines l) ≤ (plain l).count c := by
  induction l with
  | nil => simp [splitLines]
  | cons g gs ih =>
    obtain ⟨k, ks, hk⟩ := List.exists_cons_of_ne_nil (splitLines_ne_nil gs)
    rw [hk] at ih
    rw [splitLines, hk, plain_cons, List.count_cons]
    rw [occurrences_cons] at ih
    split
    · rw [occurrences_cons, occurrences_cons, plain_nil, List.count_nil]
      omega
    · rw [occurrences_cons, plain_cons, List.count_cons]
      omega

theorem count_expandTabsFrom_le (hc : c ≠ ' ') (column : Nat) (part : List Char) (afterTab : Bool) :
    (plain (expandTabsFrom column part afterTab l)).count c ≤ (plain l).count c := by
  induction l generalizing column part afterTab with
  | nil => simp [expandTabsFrom]
  | cons g gs ih =>
    rw [expandTabsFrom, plain_cons, List.count_cons]
    dsimp only
    split
    · have hfilling (n : Nat) : (plain (List.replicate n ⟨' ', g.style, false⟩)).count c = 0 := by
        rw [plain, List.map_replicate]
        exact count_blanks hc n
      rw [List.cons_append, plain_cons, List.count_cons_of_ne (Ne.symm hc), plain_append,
        List.count_append, hfilling]
      have h := ih (column + Text.cells (part ++ [' ']) +
        (tabSize - (column + Text.cells (part ++ [' '])) % tabSize) % tabSize) [] true
      omega
    · rw [plain_cons, List.count_cons]
      exact Nat.add_le_add_right (ih ..) _

/-- Filling lines loses nothing. -/
theorem flatten_fill (w : Nat) (overflow : Overflow) (ws : List Line) {first : Bool} {line : Line}
    (h : first = true → line = []) (offset : Nat) :
    (fill w overflow first line offset ws).flatten = line ++ ws.flatten := by
  have hfalse {k : Line} : false = true → k = [] := fun h => by cases h
  have hlast (ps : List Line) : ps.dropLast.flatten ++ ps.getLastD [] = ps.flatten := by
    rcases List.eq_nil_or_concat ps with rfl | ⟨qs, q, rfl⟩ <;> simp
  induction ws generalizing first line offset with
  | nil => simp [fill]
  | cons word rest ih =>
    rw [fill.eq_def, List.flatten_cons]
    dsimp only
    split
    · rw [ih hfalse, List.append_assoc]
    · split
      · cases overflow with
        | fold =>
          simp only [List.flatten_append, ih hfalse]
          rw [← List.append_assoc, hlast]
          cases first with
          | true =>
            have hempty (ps : List Line) : (ps.dropWhile List.isEmpty).flatten = ps.flatten := by
              induction ps with
              | nil => rfl
              | cons p ps ih => cases p <;> simp [ih]
            simp [h rfl, hempty, flatten_pieces]
          | false => simp [flatten_pieces]
        | ellipsis =>
          cases first with
          | true => simp [ih hfalse, h rfl]
          | false => simp [ih hfalse]
      · split
        · simp [ih hfalse]
        · rw [ih hfalse, List.append_assoc]

theorem flatten_words_of_ne_nil {l : Line} (h : words l ≠ []) : (words l).flatten = l := by
  refine flatten_words ?_
  by_contra hblank
  simp only [not_exists, not_and, Bool.not_eq_false] at hblank
  exact h (words_eq_nil hblank)

/-- The lines that a line is broken into are together the line. -/
theorem flatten_breakLine (w : Nat) (overflow : Overflow) (l : Line) :
    (breakLine w overflow l).flatten = l := by
  rw [breakLine]
  split
  · simp
  · next hne =>
    rw [flatten_fill w overflow _ (fun _ => rfl), List.nil_append, flatten_words_of_ne_nil hne]

theorem count_cutTo_le (hc : c ≠ ' ') (he : c ≠ ellipsis) (w : Nat) (overflow : Overflow) :
    (plain (cutTo w overflow l)).count c ≤ (plain l).count c := by
  cases overflow with
  | fold =>
    rw [cutTo]
    split
    · exact Nat.le_refl _
    · exact Nat.le_trans (count_restyle_le _) (Text.count_cut_le hc w _)
  | ellipsis =>
    rw [cutTo, shorten]
    split
    · exact Nat.le_refl _
    · refine Nat.le_trans (count_restyle_le _) ?_
      rw [List.count_append, List.count_singleton, if_neg (by simpa using Ne.symm he)]
      exact Text.count_cut_le hc _ _

/-- A text that is wrapped has no new characters but blanks and ellipses. -/
theorem occurrences_wrap_le (hc : c ≠ ' ') (he : c ≠ ellipsis) (w : Nat) (overflow : Overflow) :
    occurrences c (wrap w overflow l) ≤ (plain l).count c := by
  have hline (line : Line) :
      occurrences c ((breakLine w overflow (expandTabs line)).map fun part =>
        cutTo w overflow (trimTo w part)) ≤ (plain line).count c := by
    calc _ ≤ occurrences c (breakLine w overflow (expandTabs line)) :=
          occurrences_map_le fun part =>
            Nat.le_trans (count_cutTo_le hc he w overflow) (count_plain_take_le _)
      _ = (plain (expandTabs line)).count c := by rw [occurrences, flatten_breakLine]
      _ ≤ (plain line).count c := count_expandTabsFrom_le hc ..
  rw [wrap]
  have hsum (ks : List Line) : (ks.map fun k => (plain k).count c).sum = occurrences c ks := by
    induction ks with
    | nil => rfl
    | cons k ks ih => rw [List.map_cons, List.sum_cons, ih, occurrences_cons]
  exact Nat.le_trans (occurrences_flatMap_le hline _) (hsum _ ▸ occurrences_splitLines_le)

end Wrapping

/-! ### Cutting and filling up lines -/

section Fitting

variable {c : Char} {l : Line}

theorem count_cropRuns_le (hc : c ≠ ' ') (w : Nat) (rs : List Line) :
    (plain (cropRuns w rs)).count c ≤ (plain rs.flatten).count c := by
  induction rs generalizing w with
  | nil => simp [cropRuns]
  | cons r rs ih =>
    rw [cropRuns, List.flatten_cons, plain_append, List.count_append]
    split
    · rw [plain_append, List.count_append]
      exact Nat.add_le_add_left (ih _) _
    · exact Nat.le_trans (Nat.le_trans (count_restyle_le _) (Text.count_cut_le hc w _))
        (Nat.le_add_right _ _)

theorem count_crop_le (hc : c ≠ ' ') (w : Nat) (l : Line) :
    (plain (crop w l)).count c ≤ (plain l).count c := by
  rw [crop]
  split
  · exact Nat.le_refl _
  · calc _ ≤ (plain (runs l).flatten).count c := count_cropRuns_le hc w _
      _ = (plain l).count c := by rw [flatten_runs]

theorem count_fit_le (hc : c ≠ ' ') (w : Nat) (l : Line) :
    (plain (fit w l)).count c ≤ (plain l).count c := by
  rw [fit]
  split
  · exact count_crop_le hc w l
  · rw [plain_append, plain_run, List.count_append, count_blanks hc]
    exact Nat.le_refl _

end Fitting

/-! ### Tables -/

section Tables

variable {c : Char} {ls ks : List Line}

theorem occurrences_cellLines_le (hc : c ≠ ' ') (he : c ≠ ellipsis) (column : Nat) (text : Line) :
    occurrences c (cellLines column text) ≤ (plain text).count c := by
  rw [cellLines]
  split
  · exact Nat.zero_le _
  · refine Nat.le_trans (occurrences_map_le fun l => ?_) (occurrences_wrap_le hc he _ .ellipsis)
    refine Nat.le_trans (count_fit_le hc _ _) ?_
    rw [plain_append, plain_styled, List.count_append, count_blanks hc]
    exact Nat.le_refl _

theorem plain_fieldLine (l : Line) : plain (fieldLine l) = ' ' :: plain l ++ [' '] := by
  simp [fieldLine]

theorem plain_detached (l : Line) : plain (detached l) = plain l := by cases l <;> rfl

theorem plain_valueLine (l : Line) : plain (valueLine l) = ' ' :: plain l ++ [' '] := by
  simp [valueLine, plain_detached]

theorem count_between_blanks (hc : c ≠ ' ') (cs : List Char) :
    (' ' :: cs ++ [' ']).count c = cs.count c := by
  simp [List.count_append, Ne.symm hc]

theorem occurrences_fillUp (hc : c ≠ ' ') (n m : Nat) (s : Style) (ls : List Line) :
    occurrences c (fillUp n (run s (blanks m)) ls) = occurrences c ls := by
  have hblanks : c ∉ plain (run s (blanks m)) := by
    rw [plain_run]
    exact fun h => hc (List.eq_of_mem_replicate h)
  rw [fillUp, occurrences_append, occurrences_replicate_of_not_mem hblanks, Nat.add_zero]

theorem occurrences_zip_le :
    occurrences c ((ls.zip ks).map fun e => e.1 ++ e.2) ≤ occurrences c ls + occurrences c ks := by
  induction ls generalizing ks with
  | nil => exact Nat.zero_le _
  | cons l ls ih =>
    cases ks with
    | nil => exact Nat.zero_le _
    | cons k ks =>
      rw [List.zip_cons_cons, List.map_cons, occurrences_cons, occurrences_cons, occurrences_cons,
        plain_append, List.count_append, Nat.add_add_add_comm]
      exact Nat.add_le_add_left ih _

theorem occurrences_rowLines_le (hc : c ≠ ' ') (he : c ≠ ellipsis) (fieldWidth valueWidth : Nat)
    (r : Row) :
    occurrences c (rowLines fieldWidth valueWidth r) ≤ r.field.count c + (plain r.value).count c := by
  have hfields : occurrences c ((cellLines fieldWidth (styled [] r.field)).map fieldLine) ≤
      r.field.count c := by
    have hcells := occurrences_cellLines_le hc he fieldWidth (styled [] r.field)
    rw [plain_styled] at hcells
    refine Nat.le_trans (occurrences_map_le fun l => ?_) hcells
    exact Nat.le_of_eq (by rw [plain_fieldLine, count_between_blanks hc])
  have hvalues : occurrences c ((cellLines valueWidth r.value).map valueLine) ≤
      (plain r.value).count c := by
    refine Nat.le_trans (occurrences_map_le fun l => ?_)
      (occurrences_cellLines_le hc he valueWidth r.value)
    exact Nat.le_of_eq (by rw [plain_valueLine, count_between_blanks hc])
  rw [rowLines]
  dsimp only
  split
  · rw [occurrences_cons, plain_styled, count_blanks hc]
    exact Nat.zero_le _
  · refine Nat.le_trans occurrences_zip_le ?_
    rw [occurrences_fillUp hc, occurrences_fillUp hc]
    exact Nat.add_le_add hfields hvalues

theorem occurrences_tableLines_le (hc : c ≠ ' ') (he : c ≠ ellipsis) (w : Nat) (rs : List Row) :
    occurrences c (tableLines w rs) ≤
      (rs.map fun r => r.field.count c + (plain r.value).count c).sum := by
  rw [tableLines]
  split
  · exact occurrences_flatMap_le (occurrences_rowLines_le hc he _ _) rs
  · exact Nat.zero_le _

end Tables

/-! ### Reports -/

section Reports

variable {c : Char}

/-- The characters that laying out a report brings in. -/
def layoutChars : List Char := ' ' :: ellipsis :: ruleChar :: title

theorem count_rule (hc : c ∉ layoutChars) (w : Nat) : (plain (rule title w)).count c = 0 := by
  obtain ⟨hblank, hellipsis, hrule, htitle⟩ :
      c ≠ ' ' ∧ c ≠ ellipsis ∧ c ≠ ruleChar ∧ c ∉ title := by
    simpa only [layoutChars, List.mem_cons, not_or] using hc
  have hdashes (n : Nat) : (dashes n).count c = 0 :=
    List.count_eq_zero_of_not_mem fun h => hrule (List.eq_of_mem_replicate h)
  have hshown (n : Nat) : (plain (shorten n (run titleStyle title))).count c = 0 := by
    refine Nat.le_zero.mp (Nat.le_trans (count_cutTo_le hblank hellipsis n .ellipsis) ?_)
    exact Nat.le_of_eq (by rw [plain_run, List.count_eq_zero_of_not_mem htitle])
  rw [rule]
  split
  · rw [plain_run, hdashes]
  · refine Nat.le_zero.mp (Nat.le_trans (count_crop_le hblank w _) ?_)
    simp [List.count_append, hdashes, hshown, Ne.symm hblank]

theorem occurrences_messageLines_le (hc : c ≠ ' ') (he : c ≠ ellipsis) (w : Nat) (message : String) :
    occurrences c (messageLines w message) ≤ (plain (messageText message)).count c := by
  rw [messageLines]
  split
  · exact Nat.zero_le _
  · have hempty : occurrences c [[]] = 0 := rfl
    rw [occurrences_append, hempty, Nat.add_zero]
    exact occurrences_wrap_le hc he w .fold

/-- A character that layout does not bring in occurs in a report at most as often as in the message
and in the rows of the table. -/
theorem occurrences_lines_le (hc : c ∉ layoutChars) (f : Content) (config : ReportConfig) :
    occurrences c (lines f config) ≤ (plain (messageText f.message)).count c +
      ((rows f config.showReason).map fun r => r.field.count c + (plain r.value).count c).sum := by
  obtain ⟨hblank, hellipsis, -⟩ : c ≠ ' ' ∧ c ≠ ellipsis ∧ c ∉ ruleChar :: title := by
    simpa only [layoutChars, List.mem_cons, not_or] using hc
  refine Nat.le_trans (occurrences_map_le (count_crop_le hblank config.width)) ?_
  simp only [layout, occurrences_append, occurrences_cons, occurrences_nil, plain_nil,
    List.count_nil, count_rule hc, Nat.zero_add, Nat.add_zero]
  exact Nat.add_le_add (occurrences_messageLines_le hblank hellipsis _ _)
    (occurrences_tableLines_le hblank hellipsis _ _)

/-- The character is not brought in by layout, by a tag or by a sign. -/
structure ComesFromTexts (c : Char) : Prop where
  not_layout : c ∉ layoutChars
  not_backslash : c ≠ '\\'
  not_closing : Markup.isClosingChar c = false
  not_sign : Emoji.isSignChar c = false

variable {f : Content}

theorem count_subject_le (hc : ComesFromTexts c) (text : String) :
    (plain (Markup.render (Markup.escape text.toList))).count c ≤ text.toList.count c := by
  have h := Markup.count_plain_render_le .nothing hc.not_backslash hc.not_closing hc.not_sign
    text.toList
  rwa [List.append_nil] at h

theorem count_tagged_le (hc : ComesFromTexts c) {tag : String} (h : Markup.IsLetterTag tag)
    (text : String) : (plain (tagged tag text)).count c ≤ text.toList.count c := by
  rw [tagged, Markup.plain_render_enclose h]
  exact Markup.count_plain_render_le h.isClosing hc.not_backslash hc.not_closing hc.not_sign _

theorem plain_messageText (message : String) :
    plain (messageText message) = plain (tagged "bold" message) :=
  Highlight.plain_highlight _

theorem count_message_le (hc : ComesFromTexts c) (text : String) :
    (plain (messageText text)).count c ≤ text.toList.count c := by
  rw [plain_messageText]
  exact count_tagged_le hc Markup.isLetterTag_bold text

theorem count_field (hc : ComesFromTexts c) {field : List Char}
    (h : (field.all fun d => d.isLower || title.contains d) = true) : field.count c = 0 := by
  refine List.count_eq_zero_of_not_mem fun hmem => ?_
  have hletter := List.all_eq_true.mp h c hmem
  rw [Bool.or_eq_true, List.contains_iff_mem] at hletter
  rcases hletter with hlower | htitle
  · have hclosing : Markup.isClosingChar c = true := by simp [Markup.isClosingChar, hlower]
    exact Bool.false_ne_true (hc.not_closing.symm.trans hclosing)
  · exact hc.not_layout (by simp [layoutChars, htitle])

/-- The names of the fields are made of small letters and of letters of the title. -/
theorem count_fields (hc : ComesFromTexts c) : "Subject".toList.count c = 0 ∧
    "Expected".toList.count c = 0 ∧ "Actual".toList.count c = 0 :=
  ⟨count_field hc (by decide), count_field hc (by decide), count_field hc (by decide)⟩

/-- A character that comes from the texts alone occurs in a report at most as often as in what is
shown of them. -/
theorem occurrences_lines_le_texts (hc : ComesFromTexts c) (f : Content) (config : ReportConfig) :
    occurrences c (lines f config) ≤ (plain (messageText f.message)).count c +
      (plain (Markup.render (Markup.escape f.subject.toList))).count c +
      (plain (tagged "green" f.description)).count c + (plain (tagged "yellow" f.reason)).count c := by
  obtain ⟨hsubject, hexpected, hactual⟩ := count_fields hc
  refine Nat.le_trans (occurrences_lines_le hc.not_layout f config) ?_
  cases config.showReason <;>
    simp only [rows, if_true, Bool.false_eq_true, if_false, List.map_append, List.map_cons, List.map_nil, List.sum_append,
      List.sum_cons, List.sum_nil, hsubject, hexpected, hactual]
  all_goals omega

/-- A character that comes from the texts alone is not in a report if it is in none of them. -/
theorem not_mem_lines (hc : ComesFromTexts c) (hsubject : c ∉ f.subject.toList)
    (hdescription : c ∉ f.description.toList) (hreason : c ∉ f.reason.toList)
    (hmessage : c ∉ f.message.toList) (config : ReportConfig) :
    ∀ l ∈ lines f config, c ∉ plain l := by
  have hnone : occurrences c (lines f config) = 0 := by
    have htotal := occurrences_lines_le_texts hc f config
    have h1 := count_subject_le hc f.subject
    have h2 := count_tagged_le hc Markup.isLetterTag_green f.description
    have h3 := count_tagged_le hc Markup.isLetterTag_yellow f.reason
    have h4 := count_message_le hc f.message
    rw [List.count_eq_zero_of_not_mem hsubject] at h1
    rw [List.count_eq_zero_of_not_mem hdescription] at h2
    rw [List.count_eq_zero_of_not_mem hreason] at h3
    rw [List.count_eq_zero_of_not_mem hmessage] at h4
    omega
  intro l hl hmem
  obtain ⟨g, hg, hchar⟩ := List.mem_map.mp hmem
  exact List.count_eq_zero.mp hnone (List.mem_map.mpr ⟨g, List.mem_flatten_of_mem hl hg, hchar⟩)

end Reports

end Report

end Conformance
