import Conformance.Proofs.Contents
import Conformance.Proofs.Fitting
import Conformance.Proofs.Literals
import Conformance.Text.Split

/-!
# Which texts a report shows as they are

The texts of a failure are escaped before they are shown, so that tags in them are no tags. Where there
is room for them, a report has each text on a line of its own, and these lines have the texts in them as
they are just when the texts are shown so (`Report.map_plain_lines_eq_iff`). That is when no backslash
stands in front of a bracket that opens no tag, no part of a text has a code of an emoji, the subject
does not end in a single backslash and the other texts do not end in two (`Report.shown_eq_verbatim_iff`).
The argument rests on colons: replacing codes takes some away, and nothing brings any in.
-/

namespace Conformance.Report

open Text (IsAscii)
open Markup (IsLiteral backslashesAtEnd)

/-! ### What is shown of a text -/

/-- What is shown of a text, with a short closing tag behind it or none. -/
def IsShownAs (cs ds : List Char) : Prop :=
  ∃ closing, Markup.IsClosing closing ∧ closing.length ≤ 9 ∧
    plain (Markup.render (Markup.escape cs ++ closing)) = ds

theorem isShownAs_escape (cs : List Char) : IsShownAs cs (plain (Markup.render (Markup.escape cs))) :=
  ⟨[], .nothing, Nat.zero_le _, by rw [List.append_nil]⟩

theorem isShownAs_tagged {tag : String} (h : Markup.IsLetterTag tag) (text : String) :
    IsShownAs text.toList (plain (tagged tag text)) := by
  have hshort := h.short
  refine ⟨Markup.bracketed ('/' :: tag.toList), h.isClosing, ?_,
    (Markup.plain_render_enclose h text.toList).symm⟩
  simp only [Markup.bracketed, List.length_append, List.length_cons, List.length_nil]
  omega

section Texts

variable {cs ds : List Char}

theorem not_isDropped_of_isAscii (hcs : IsAscii cs) : ∀ c ∈ cs, Markup.isDropped c = false := by
  intro c hc
  by_contra hdropped
  have hcode := Markup.toNat_of_isDropped (Bool.not_eq_false _ ▸ hdropped)
  have hascii := hcs c hc
  simp only [Text.isAscii, Bool.and_eq_true, decide_eq_true_eq] at hascii
  omega

theorem isAscii_of_isClosingChar {c : Char} (h : Markup.isClosingChar c = true) :
    Text.isAscii c = true := by
  simp only [Markup.isClosingChar, Bool.or_eq_true, beq_iff_eq] at h
  rcases h with ((rfl | rfl) | rfl) | h
  · decide
  · decide
  · decide
  · obtain ⟨hfirst, hlast⟩ := Markup.toNat_of_isLower h
    simp only [Text.isAscii, Bool.and_eq_true, decide_eq_true_eq]
    exact ⟨Nat.le_trans (by decide) hfirst, Nat.le_trans hlast (by decide)⟩

/-- What is shown of a text that keeps its colons. -/
theorem IsShownAs.of_count (h : IsShownAs cs ds) (hcs : IsAscii cs) (hcount : ds.count ':' = cs.count ':') :
    IsAscii ds ∧ ds.count ' ' = cs.count ' ' ∧ ds.length ≤ cs.length + 7 := by
  obtain ⟨closing, hclosing, hlength, rfl⟩ := h
  obtain ⟨hmem, hcounts, hle⟩ :=
    Markup.of_count_plain_render hclosing (not_isDropped_of_isAscii hcs) hcount
  refine ⟨fun c hc => ?_, hcounts ' ' (by decide) (by decide), by omega⟩
  rcases hmem c hc with rfl | hc | hc
  · decide
  · exact isAscii_of_isClosingChar hc
  · exact hcs c hc

end Texts

/-! ### Reports with the texts in them -/

/-- The texts of a report as they are. -/
def verbatim (f : Content) : Shown where
  subject := f.subject.toList
  description := f.description.toList
  reason := f.reason.toList
  message := if f.message = "" then none else some f.message.toList

/-- The texts of a report. -/
def Content.texts (f : Content) : List String := [f.subject, f.description, f.reason, f.message]

@[simp] theorem Content.mem_texts_iff {f : Content} {s : String} :
    s ∈ f.texts ↔ s = f.subject ∨ s = f.description ∨ s = f.reason ∨ s = f.message := by
  simp [texts]

/-- Nothing in the texts of a report has a meaning, and none ends in too many backslashes. -/
structure Content.IsLiteral (f : Content) : Prop where
  /-- The subject has nothing with a meaning in it and does not end in a single backslash. -/
  subject : Markup.IsLiteral f.subject.toList ∧ backslashesAtEnd f.subject.toList ≠ 1
  /-- The other texts have nothing with a meaning in them and do not end in two backslashes. -/
  others : ∀ s ∈ [f.description, f.reason, f.message],
    Markup.IsLiteral s.toList ∧ backslashesAtEnd s.toList ≤ 1

/-- The texts of a report are printable ASCII, and the width leaves room for each of them. -/
structure Content.IsShort (f : Content) (w : Nat) : Prop where
  /-- The texts are printable ASCII. -/
  ascii : ∀ s ∈ f.texts, IsAscii s.toList
  /-- The width is at least 20 more than the longest of them. -/
  width : ∀ s ∈ f.texts, s.toList.length + 20 ≤ w

section Reports

variable {f : Content} {w : Nat}

/-- The texts are shown as they are if nothing in them has a meaning, and only then. -/
theorem shown_eq_verbatim_iff (hf : f.IsShort w) : shown f = verbatim f ↔ f.IsLiteral := by
  have hdropped {s : String} (hs : s ∈ f.texts) :
      ∀ c ∈ s.toList, Markup.isDropped c = false := not_isDropped_of_isAscii (hf.ascii s hs)
  have hsubject := Markup.plain_render_escape_eq_iff (hdropped (s := f.subject) (by simp))
  have hdescription : plain (tagged "green" f.description) = f.description.toList ↔
      Markup.IsLiteral f.description.toList ∧ backslashesAtEnd f.description.toList ≤ 1 :=
    Markup.plain_render_enclose_eq_iff Markup.isLetterTag_green (hdropped (by simp))
  have hreason : plain (tagged "yellow" f.reason) = f.reason.toList ↔
      Markup.IsLiteral f.reason.toList ∧ backslashesAtEnd f.reason.toList ≤ 1 :=
    Markup.plain_render_enclose_eq_iff Markup.isLetterTag_yellow (hdropped (by simp))
  have hbold : plain (messageText f.message) = f.message.toList ↔
      Markup.IsLiteral f.message.toList ∧ backslashesAtEnd f.message.toList ≤ 1 := by
    rw [plain_messageText]
    exact Markup.plain_render_enclose_eq_iff Markup.isLetterTag_bold (hdropped (by simp))
  have hmessage : (shown f).message = (verbatim f).message ↔
      Markup.IsLiteral f.message.toList ∧ backslashesAtEnd f.message.toList ≤ 1 := by
    rw [← hbold]
    by_cases hempty : f.message = ""
    · simp only [shown, verbatim, hempty, if_true, true_iff]
      rw [plain_messageText]
      rfl
    · simp [shown, verbatim, hempty]
  rw [Shown.ext_iff, hmessage, shown_subject, shown_description, shown_reason, verbatim, hsubject,
    hdescription, hreason]
  constructor
  · rintro ⟨h1, h2, h3, h4⟩
    exact ⟨h1, by simpa using ⟨h2, h3, h4⟩⟩
  · rintro ⟨h1, h⟩
    exact ⟨h1, by simpa using h⟩

theorem count_cellText {c : Char} (hc : c ≠ ' ') (column : Nat) (cs : List Char) :
    (cellText column cs).count c = cs.count c := by
  have hblanks : c ∉ List.replicate (column - (' ' :: cs).length) ' ' :=
    fun h => hc (List.eq_of_mem_replicate h)
  rw [cellText, List.rightpad, List.count_append, List.count_cons_of_ne (Ne.symm hc),
    List.count_eq_zero_of_not_mem hblanks, Nat.add_zero]

/-- Cells with equal texts apart from blanks have equal texts. -/
theorem eq_of_cellText_eq {n m : Nat} {cs ds : List Char} (hblanks : cs.count ' ' = ds.count ' ')
    (h : cellText n cs = cellText m ds) : cs = ds := by
  have hcount (n : Nat) (cs : List Char) : (cellText n cs).count ' ' =
      cs.count ' ' + 1 + (n - (' ' :: cs).length) := by
    rw [cellText, List.rightpad, List.count_append, List.count_cons_self, List.count_replicate_self]
  have hbehind : n - (' ' :: cs).length = m - (' ' :: ds).length := by
    have htotal := congrArg (List.count ' ') h
    rw [hcount, hcount] at htotal
    omega
  rw [cellText, cellText, List.rightpad, List.rightpad, hbehind] at h
  exact (List.cons.inj (List.append_cancel_right h)).2

/-- The lines of a report tell the texts in it, if their blanks are known. -/
theorem Shown.eq_of_lines_eq {t u : Shown} (hsubject : t.subject.count ' ' = u.subject.count ' ')
    (hdescription : t.description.count ' ' = u.description.count ' ')
    (hreason : t.reason.count ' ' = u.reason.count ' ')
    (hmessage : t.message.isSome = u.message.isSome) (h : t.lines w = u.lines w) : t = u := by
  obtain ⟨hfront, hrows⟩ := List.append_inj' (List.append_cancel_right h) rfl
  have hlines := List.append_cancel_left hfront
  have hmessages : t.message = u.message := by
    cases ht : t.message <;> cases hu : u.message <;> simp_all
  simp only [rows, fields, values, List.zip_cons_cons, List.zip_nil_right, List.map_cons, List.map_nil,
    List.cons.injEq, List.append_cancel_left_eq] at hrows
  obtain ⟨h1, h2, h3, -⟩ := hrows
  exact Shown.ext (eq_of_cellText_eq hsubject h1) (eq_of_cellText_eq hdescription h2)
    (eq_of_cellText_eq hreason h3) hmessages

theorem count_heading {c : Char} (hc : ComesFromTexts c) (w : Nat) :
    (Shown.heading w).flatten.count c = 0 := by
  have hblank : c ≠ ' ' := fun h => hc.not_layout (h ▸ List.mem_cons_self)
  have hrule := count_crop_le hblank w (rule title w)
  rw [count_rule hc.not_layout] at hrule
  simpa [Shown.heading] using hrule

/-- A character that comes from the texts alone occurs in the lines as often as in the texts. -/
theorem count_lines {c : Char} (hc : ComesFromTexts c) (t : Shown) (w : Nat) :
    (t.lines w).flatten.count c = t.message.elim 0 (fun m => m.count c) + t.subject.count c +
      t.description.count c + t.reason.count c := by
  have hblank : c ≠ ' ' := fun h => hc.not_layout (h ▸ List.mem_cons_self)
  obtain ⟨hsubject, hexpected, hactual⟩ := count_fields hc
  have hmessage : (t.message.elim [] fun m => [m, []]).flatten.count c =
      t.message.elim 0 fun m => m.count c := by
    cases t.message <;> simp
  have hrows : t.rows.flatten.count c = t.subject.count c + t.description.count c + t.reason.count c := by
    simp only [Shown.rows, Shown.fields, Shown.values, List.zip_cons_cons, List.zip_nil_right,
      List.map_cons, List.map_nil, List.flatten_cons, List.flatten_nil, List.count_append, List.count_nil,
      count_cellText hblank, hsubject, hexpected, hactual]
    omega
  rw [Shown.lines, List.flatten_append, List.flatten_append, List.flatten_append, List.count_append,
    List.count_append, List.count_append, count_heading hc, hmessage, hrows]
  simp only [List.flatten_cons, List.flatten_nil, List.append_nil, List.count_nil]
  omega

theorem comesFromTexts_colon : ComesFromTexts ':' := ⟨by decide, by decide, by decide, by decide⟩

/-- A text that keeps its colons is shown on a line if it is short. -/
theorem IsShownAs.fits {cs ds : List Char} (h : IsShownAs cs ds) (hcs : IsAscii cs)
    (hw : cs.length + 20 ≤ w) (hcount : ds.count ':' = cs.count ':') :
    IsAscii ds ∧ ds.length + padding + columnOf Shown.fields ≤ w := by
  obtain ⟨hascii, -, hlength⟩ := h.of_count hcs hcount
  have hpadding : padding = 2 := rfl
  rw [columnOf_fields]
  exact ⟨hascii, by omega⟩

theorem isShownAs_subject (f : Content) : IsShownAs f.subject.toList (shown f).subject := by
  rw [shown_subject]
  exact isShownAs_escape _

theorem isShownAs_description (f : Content) : IsShownAs f.description.toList (shown f).description := by
  rw [shown_description]
  exact isShownAs_tagged Markup.isLetterTag_green _

theorem isShownAs_reason (f : Content) : IsShownAs f.reason.toList (shown f).reason := by
  rw [shown_reason]
  exact isShownAs_tagged Markup.isLetterTag_yellow _

theorem isShownAs_message (f : Content) :
    IsShownAs f.message.toList (plain (messageText f.message)) := by
  rw [plain_messageText]
  exact isShownAs_tagged Markup.isLetterTag_bold _

theorem fits_of_shown_eq (hf : f.IsShort w) (h : shown f = verbatim f) : (shown f).Fits w := by
  have hpadding : padding = 2 := rfl
  have hascii := hf.ascii
  have hwidth := hf.width
  simp only [Content.mem_texts_iff, forall_eq_or_imp, forall_eq] at hascii hwidth
  rw [h]
  constructor
  · rw [columnOf_fields]
    simp only [Shown.values, verbatim, List.mem_cons, List.not_mem_nil, or_false, forall_eq_or_imp,
      forall_eq, hascii, true_and]
    omega
  · intro m hm
    obtain ⟨-, rfl⟩ : f.message ≠ "" ∧ f.message.toList = m := by simpa [verbatim] using hm
    exact ⟨hascii.2.2.2, by omega⟩

/-- The texts in a report that has the lines with its texts in them are shown with all their colons,
since none is shown with more. -/
theorem count_colon_of_lines_eq {config : ReportConfig}
    (h : (lines f config).map plain = (verbatim f).lines config.width) :
    (shown f).subject.count ':' = f.subject.toList.count ':' ∧
    (shown f).description.count ':' = f.description.toList.count ':' ∧
    (shown f).reason.count ':' = f.reason.toList.count ':' ∧
    (plain (messageText f.message)).count ':' = f.message.toList.count ':' := by
  have hmessage : (verbatim f).message.elim 0 (fun m => m.count ':') = f.message.toList.count ':' := by
    by_cases hempty : f.message = "" <;> simp [verbatim, hempty]
  have hverbatim : occurrences ':' (lines f config) = f.message.toList.count ':' +
      f.subject.toList.count ':' + f.description.toList.count ':' + f.reason.toList.count ':' := by
    rw [occurrences_eq_count, h, count_lines comesFromTexts_colon, hmessage, verbatim]
  have hlines := occurrences_lines_le_texts comesFromTexts_colon f config
  have h1 := count_subject_le comesFromTexts_colon f.subject
  have h2 := count_tagged_le comesFromTexts_colon Markup.isLetterTag_green f.description
  have h3 := count_tagged_le comesFromTexts_colon Markup.isLetterTag_yellow f.reason
  have h4 := count_message_le comesFromTexts_colon f.message
  rw [shown_subject, shown_description, shown_reason]
  omega

/-- A report has the lines with its texts in them if these are shown as they are, and only then. -/
theorem map_plain_lines_eq_iff {config : ReportConfig} (hreason : config.showReason = true)
    (hf : f.IsShort config.width) :
    (lines f config).map plain = (verbatim f).lines config.width ↔ shown f = verbatim f := by
  constructor
  · intro h
    obtain ⟨hsubject, hdescription, hreasons, hmessage⟩ := count_colon_of_lines_eq h
    have hascii := hf.ascii
    have hwidth := hf.width
    simp only [Content.mem_texts_iff, forall_eq_or_imp, forall_eq] at hascii hwidth
    have hfits : (shown f).Fits config.width := by
      constructor
      · simp only [Shown.values, List.mem_cons, List.not_mem_nil, or_false, forall_eq_or_imp, forall_eq]
        exact ⟨(isShownAs_subject f).fits hascii.1 hwidth.1 hsubject,
          (isShownAs_description f).fits hascii.2.1 hwidth.2.1 hdescription,
          (isShownAs_reason f).fits hascii.2.2.1 hwidth.2.2.1 hreasons⟩
      · intro m hm
        obtain ⟨-, rfl⟩ : f.message ≠ "" ∧ plain (messageText f.message) = m := by
          simpa [shown] using hm
        have hm := (isShownAs_message f).fits hascii.2.2.2 hwidth.2.2.2 hmessage
        exact ⟨hm.1, by omega⟩
    rw [lines_of_fits hreason hfits] at h
    refine Shown.eq_of_lines_eq ?_ ?_ ?_ ?_ h
    · exact ((isShownAs_subject f).of_count hascii.1 hsubject).2.1
    · exact ((isShownAs_description f).of_count hascii.2.1 hdescription).2.1
    · exact ((isShownAs_reason f).of_count hascii.2.2.1 hreasons).2.1
    · by_cases hempty : f.message = "" <;> simp [shown, verbatim, hempty]
  · intro h
    rw [lines_of_fits hreason (fits_of_shown_eq hf h), h]

end Reports

/-! ### Reports as texts -/

/-- Lines as a text, with a line feed behind each of them. -/
def linesText (ls : List (List Char)) : String := String.ofList (ls.flatMap fun l => l ++ ['\n'])

theorem splitOn_linesText {ls : List (List Char)} (h : '\n' ∉ ls.flatten) :
    Text.splitOn '\n' (linesText ls).toList = ls ++ [[]] := by
  rw [linesText, String.toList_ofList]
  induction ls with
  | nil => rfl
  | cons l ls ih =>
    rw [List.flatten_cons, List.mem_append, not_or] at h
    rw [List.flatMap_cons, List.append_assoc, List.singleton_append, Text.splitOn_append_cons _ h.1,
      ih h.2, List.cons_append]

/-- Texts of the same lines have the same lines. -/
theorem eq_of_linesText_eq {ls ks : List (List Char)} (hls : '\n' ∉ ls.flatten)
    (hks : '\n' ∉ ks.flatten) (h : linesText ls = linesText ks) : ls = ks :=
  List.append_cancel_right <|
    (splitOn_linesText hls).symm.trans ((congrArg _ (congrArg _ h)).trans (splitOn_linesText hks))

theorem infix_linesText {ls : List (List Char)} {l cs : List Char} (hl : l ∈ ls) (h : cs <:+: l) :
    cs <:+: (linesText ls).toList := by
  rw [linesText, String.toList_ofList, List.flatMap_def]
  have hline : l ++ ['\n'] ∈ ls.map fun l => l ++ ['\n'] := List.mem_map_of_mem hl
  exact h.trans ((List.prefix_append _ _).isInfix.trans (List.infix_of_mem_flatten hline))

section Reports

variable {f : Content} {w : Nat} {config : ReportConfig}

theorem render_eq_linesText (hcolor : config.color = false) (f : Content) :
    render f config = linesText ((lines f config).map plain) := by
  rw [render, linesText, List.flatMap_map, hcolor]
  rfl

/-- The report with its texts in it as they are. -/
def verbatimReport (f : Content) (w : Nat) : String := linesText ((verbatim f).lines w)

theorem comesFromTexts_newline : ComesFromTexts '\n' := ⟨by decide, by decide, by decide, by decide⟩

theorem Content.IsShort.newline_not_mem (hf : f.IsShort w) {s : String}
    (hs : s ∈ f.texts) : '\n' ∉ s.toList :=
  (hf.ascii s hs).not_mem (by decide)

theorem newline_not_mem_lines (hf : f.IsShort w) (config : ReportConfig) :
    '\n' ∉ ((lines f config).map plain).flatten := by
  simp only [List.mem_flatten, List.mem_map, not_exists, not_and]
  rintro cs ⟨l, hl, rfl⟩
  exact not_mem_lines comesFromTexts_newline (hf.newline_not_mem (by simp))
    (hf.newline_not_mem (by simp)) (hf.newline_not_mem (by simp)) (hf.newline_not_mem (by simp)) config l hl

theorem newline_not_mem_verbatim (hf : f.IsShort w) : '\n' ∉ ((verbatim f).lines w).flatten := by
  have hnone {s : String} (hs : s ∈ f.texts) :
      s.toList.count '\n' = 0 := List.count_eq_zero_of_not_mem (hf.newline_not_mem hs)
  have hmessage : (verbatim f).message.elim 0 (fun m => m.count '\n') = 0 := by
    by_cases hempty : f.message = ""
    · simp [verbatim, hempty]
    · simpa [verbatim, hempty] using hnone (s := f.message) (by simp)
  rw [← List.count_eq_zero, count_lines comesFromTexts_newline, hmessage, verbatim]
  simp only [hnone (s := f.subject) (by simp), hnone (s := f.description) (by simp),
    hnone (s := f.reason) (by simp)]

theorem infix_verbatimReport (f : Content) (w : Nat) :
    ∀ s ∈ f.texts, s.toList <:+: (verbatimReport f w).toList := by
  have hcell (column : Nat) (cs : List Char) : cs <:+: cellText column cs :=
    ⟨[' '], List.replicate (column - (' ' :: cs).length) ' ', by rw [cellText, List.rightpad]; rfl⟩
  have hrow (field : List Char) {cs : List Char} (he : (field, cs) ∈ Shown.fields.zip (verbatim f).values) :
      cs <:+: (verbatimReport f w).toList := by
    have hmem : cellText (columnOf Shown.fields) field ++ cellText (columnOf (verbatim f).values) cs ∈
        (verbatim f).lines w := by
      rw [Shown.lines]
      exact List.mem_append_left _ (List.mem_append_right _ (List.mem_map_of_mem he))
    exact infix_linesText hmem ((hcell _ cs).trans (List.suffix_append _ _).isInfix)
  have hmessage : f.message.toList <:+: (verbatimReport f w).toList := by
    by_cases hempty : f.message = ""
    · rw [hempty]
      exact List.nil_infix
    · have hmem : f.message.toList ∈ (verbatim f).lines w := by simp [Shown.lines, verbatim, hempty]
      exact infix_linesText hmem List.infix_rfl
  simp only [Content.mem_texts_iff, forall_eq_or_imp, forall_eq]
  exact ⟨hrow "Subject".toList (by simp [Shown.fields, Shown.values, verbatim]),
    hrow "Expected".toList (by simp [Shown.fields, Shown.values, verbatim]),
    hrow "Actual".toList (by simp [Shown.fields, Shown.values, verbatim]), hmessage⟩

/-- **When a report shows its texts as they are.** A report without colour, whose texts are printable
ASCII and have 20 columns of room beside them, is the one with each text on a line as it is, and these
texts are in that, if and only if nothing in the texts has a meaning: no backslash stands in front of a
bracket that opens no tag, there is no code of an emoji between tags or in one, the subject does not
end in a single backslash, and no other text ends in two of them. -/
theorem ofFailure_eq_verbatim_iff (w : World) (f : Content) (config : ReportConfig)
    (hcolor : config.color = false) (hreason : config.showReason = true) (hf : f.IsShort config.width) :
    (ofFailure w f.failure (.columns config) = .ok (verbatimReport f config.width) ↔ f.IsLiteral) ∧
    ∀ s ∈ f.texts,
      s.toList <:+: (verbatimReport f config.width).toList := by
  refine ⟨?_, infix_verbatimReport f config.width⟩
  rw [ofFailure_failure, ← shown_eq_verbatim_iff hf, ← map_plain_lines_eq_iff hreason hf,
    render_eq_linesText hcolor]
  constructor
  · intro h
    exact eq_of_linesText_eq (newline_not_mem_lines hf config) (newline_not_mem_verbatim hf)
      (Except.ok.inj h)
  · intro h
    rw [h, verbatimReport]

end Reports

/-- Texts with brackets, tags and slashes. -/
def Content.bracketed : Content :=
  ⟨"[1, 2]", "has [public] method a()", "[1, 2] has no method a", "see [b] and [/b]"⟩

/-- Brackets and tags are shown as they are. -/
theorem ofFailure_eq_verbatim_bracketed :
    let config : ReportConfig := { width := 43, color := false }
    Content.bracketed.IsShort 43 ∧
    ofFailure {} Content.bracketed.failure (.columns config) =
      .ok (verbatimReport Content.bracketed 43) ∧
    ∀ s ∈ Content.bracketed.texts, s.toList <:+: (verbatimReport Content.bracketed 43).toList := by
  intro config
  have hshort : Content.bracketed.IsShort 43 :=
    ⟨by decide, by decide⟩
  have hliteral : Content.bracketed.IsLiteral := by
    refine ⟨⟨Markup.isLiteral_of_not_mem (by decide) (by decide), by decide⟩, ?_⟩
    simp only [List.mem_cons, List.not_mem_nil, or_false, forall_eq_or_imp, forall_eq]
    exact ⟨⟨Markup.isLiteral_of_not_mem (by decide) (by decide), by decide⟩,
      ⟨Markup.isLiteral_of_not_mem (by decide) (by decide), by decide⟩,
      Markup.isLiteral_of_not_mem (by decide) (by decide), by decide⟩
  obtain ⟨hiff, htexts⟩ := ofFailure_eq_verbatim_iff {} Content.bracketed config rfl rfl hshort
  exact ⟨hshort, hiff.mpr hliteral, htexts⟩

/-- Texts of which the first has a backslash in front of a bracket that opens no tag. -/
def Content.slashed : Content :=
  ⟨"x\\[A]", "has method a()", "x has no method a", "see x"⟩

/-- The backslash is lost: the report does not have the subject in it. -/
theorem not_infix_slashed :
    let config : ReportConfig := { width := 37, color := false }
    Content.slashed.IsShort 37 ∧ ∃ report,
      ofFailure {} Content.slashed.failure (.columns config) = .ok report ∧
      ¬Content.slashed.subject.toList <:+: report.toList := by
  intro config
  have hmessage : (plain (messageText Content.slashed.message)).count '\\' = 0 := by
    rw [plain_messageText]
    decide
  have hrows : ((rows Content.slashed config.showReason).map fun r =>
      r.field.count '\\' + (plain r.value).count '\\').sum = 0 := by decide
  have hnone := occurrences_lines_le (c := '\\') (by decide) Content.slashed config
  rw [hmessage, hrows, Nat.le_zero, occurrences_eq_count, List.count_eq_zero] at hnone
  refine ⟨⟨by decide, by decide⟩, render Content.slashed config, ?_, fun hinfix => ?_⟩
  · exact ofFailure_failure {} Content.slashed config
  · have hmem : '\\' ∈ (render Content.slashed config).toList := hinfix.subset (by decide)
    rw [render_eq_linesText rfl, linesText, String.toList_ofList] at hmem
    obtain ⟨l, hl, hc⟩ := List.mem_flatMap.mp hmem
    rcases List.mem_append.mp hc with hc | hc
    · exact hnone (List.mem_flatten_of_mem hl hc)
    · exact absurd hc (by decide)

end Conformance.Report
