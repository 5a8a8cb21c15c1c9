import Conformance.Proofs.Provenance
import Mathlib.Data.List.Fold
import Mathlib.Data.List.MinMax

/-!
# Reports whose texts fit

Where the texts of a report are printable ASCII and short enough, nothing is wrapped, narrowed or cut:
the message is a line (`Report.wrap_of_fits`), each row of the table is one
(`Report.tableLines_of_fits`), and the report is known line by line (`Report.lines_of_fits`).
-/

namespace Conformance

namespace Text

/-- A printable ASCII character. -/
def isAscii (c : Char) : Bool := 0x20 ≤ c.toNat && c.toNat ≤ 0x7e

/-- A text of printable ASCII characters. -/
def IsAscii (cs : List Char) : Prop := ∀ c ∈ cs, isAscii c = true

instance (cs : List Char) : Decidable (IsAscii cs) := List.decidableBAll (isAscii · = true) cs

section Ascii

variable {c : Char} {cs ds : List Char}

theorem isAscii_append : IsAscii (cs ++ ds) ↔ IsAscii cs ∧ IsAscii ds := List.forall_mem_append

theorem isAscii_blanks (n : Nat) : IsAscii (List.replicate n ' ') := by
  intro c hc
  rw [List.eq_of_mem_replicate hc]
  decide

theorem IsAscii.not_mem (h : IsAscii cs) (hc : isAscii c = false) : c ∉ cs :=
  fun hmem => Bool.false_ne_true (hc.symm.trans (h c hmem))

theorem isConnector_of_isAscii (h : isAscii c = true) : isConnector c = false := by
  have hne {d : Char} (hd : isAscii d = false) : c ≠ d :=
    fun heq => Bool.false_ne_true (hd.symm.trans (heq ▸ h))
  simp [isConnector, hne (by decide : isAscii joiner = false),
    hne (by decide : isAscii emojiSelector = false)]

theorem cellWidth_of_isAscii (h : isAscii c = true) : cellWidth c = 1 := by
  obtain ⟨h1, h2⟩ : 0x20 ≤ c.val.toNat ∧ c.val.toNat ≤ 0x7e := by simpa [isAscii] using h
  have hsmall : c.val < 0x80 := UInt32.lt_iff_toNat_lt.mpr (Nat.lt_of_le_of_lt h2 (by decide))
  have hlow : ¬c.val < 0x20 := fun hlt => Nat.not_lt_of_le h1 (UInt32.lt_iff_toNat_lt.mp hlt)
  have hdelete : c.val ≠ 0x7f := fun heq => absurd (heq ▸ h2) (by decide)
  simp [cellWidth, hsmall, hlow, hdelete]

/-- Printable ASCII characters take a column each. -/
theorem cells_of_isAscii (h : IsAscii cs) : cells cs = cs.length := by
  induction cs with
  | nil => rfl
  | cons c cs ih =>
    obtain ⟨hc, hcs⟩ := List.forall_mem_cons.mp h
    rw [cells_cons (isConnector_of_isAscii hc) fun d hd => isConnector_of_isAscii (hcs d hd),
      cellWidth_of_isAscii hc, ih hcs, List.length_cons, Nat.add_comm]

end Ascii

end Text

namespace Report

open Text (IsAscii)

/-! ### Texts that fit on a line -/

section Wrapping

variable {l : Line} {w : Nat}

theorem textWidth_of_isAscii (hl : IsAscii (plain l)) : textWidth l = l.length := by
  rw [textWidth, Text.cells_of_isAscii hl, plain, List.length_map]

theorem width_of_isAscii (hl : IsAscii (plain l)) : width l = l.length := by
  rw [width_eq_textWidth, textWidth_of_isAscii hl]
  exact fun g hg => Text.isConnector_of_isAscii (hl _ (List.mem_map_of_mem hg))

theorem neededWidth_le (hl : IsAscii (plain l)) : neededWidth l ≤ l.length := by
  have hsub : (Text.trimEnd (plain l)).Sublist (plain l) := by
    rw [Text.trimEnd, ← List.reverse_sublist, List.reverse_reverse]
    exact List.dropWhile_sublist _
  rw [neededWidth, Text.cells_of_isAscii fun c hc => hl c (hsub.subset hc)]
  exact Nat.le_trans hsub.length_le (Nat.le_of_eq (List.length_map _))

theorem expandTabsFrom_of_no_tab (h : ∀ g ∈ l, g.char ≠ '\t') (column : Nat) (part : List Char) :
    expandTabsFrom column part false l = l := by
  induction l generalizing part with
  | nil => rfl
  | cons g l ih =>
    obtain ⟨hg, hl⟩ := List.forall_mem_cons.mp h
    rw [expandTabsFrom, ih hl]
    simp [hg]

/-- Words that fit on the line are all put on it. -/
theorem fill_of_fits {ws : List Line} (hws : IsAscii (plain ws.flatten)) (overflow : Overflow)
    (first : Bool) (line : Line) {offset : Nat} (hw : offset + ws.flatten.length ≤ w) :
    fill w overflow first line offset ws = [line ++ ws.flatten] := by
  induction ws generalizing first line offset with
  | nil => simp [fill]
  | cons word ws ih =>
    rw [List.flatten_cons, plain_append, Text.isAscii_append] at hws
    rw [List.flatten_cons, List.length_append] at hw
    have hword := neededWidth_le hws.1
    rw [fill.eq_def]
    dsimp only
    rw [if_pos (by omega), ih hws.2 _ _ (by rw [textWidth_of_isAscii hws.1]; omega), List.flatten_cons,
      List.append_assoc]

theorem breakLine_of_fits (hl : IsAscii (plain l)) (overflow : Overflow) (hw : l.length ≤ w) :
    breakLine w overflow l = [l] := by
  rw [breakLine]
  split
  · rfl
  · next hne =>
    have hwords : (words l).flatten = l := flatten_words_of_ne_nil hne
    have hfill : fill w overflow true [] 0 (words l) = [[] ++ (words l).flatten] :=
      fill_of_fits (hwords.symm ▸ hl) overflow true [] (by rw [hwords]; omega)
    rwa [hwords] at hfill

/-- A text that fits on a line is not wrapped. -/
theorem wrap_of_fits (hl : IsAscii (plain l)) (overflow : Overflow) (hw : l.length ≤ w) :
    wrap w overflow l = [l] := by
  have hchar {c : Char} (hc : Text.isAscii c = false) : ∀ g ∈ l, g.char ≠ c :=
    fun g hg heq => hl.not_mem hc (heq ▸ List.mem_map_of_mem hg)
  have htrim : trimTo w l = l := by
    rw [trimTo, Nat.sub_eq_zero_of_le hw, dropBlanksAtEnd, Nat.min_zero, Nat.sub_zero, List.take_length]
  have hcut : cutTo w overflow l = l := by
    have hfits : textWidth l ≤ w := by rwa [textWidth_of_isAscii hl]
    cases overflow <;> simp [cutTo, shorten, hfits]
  rw [wrap, splitLines_of_no_newline (hchar (by decide)), List.flatMap_singleton, expandTabs,
    expandTabsFrom_of_no_tab (hchar (by decide)), breakLine_of_fits hl overflow hw, List.map_singleton,
    htrim, hcut]

end Wrapping

/-! ### Tables that fit -/

section Tables

variable {w limit column fieldWidth valueWidth : Nat} {cs : List Char} {texts : List (List Char)}

/-- The width of a column that is as wide as its texts need. -/
def columnOf (texts : List (List Char)) : Nat :=
  (texts.map fun cs => cs.length + padding).foldl max 0

theorem le_columnOf (h : cs ∈ texts) : cs.length + padding ≤ columnOf texts := by
  rw [columnOf, List.foldl_eq_foldr]
  exact List.le_max_of_le' 0 (List.mem_map_of_mem h) (Nat.le_refl _)

theorem columnOf_le (h : ∀ cs ∈ texts, cs.length + padding ≤ limit) : columnOf texts ≤ limit := by
  rw [columnOf, List.foldl_eq_foldr]
  induction texts with
  | nil => exact Nat.zero_le _
  | cons cs texts ih =>
    obtain ⟨hcs, htexts⟩ := List.forall_mem_cons.mp h
    exact Nat.max_le.mpr ⟨hcs, ih htexts⟩

theorem isLineEnd_of_isAscii {c : Char} (h : Text.isAscii c = true) : isLineEnd c = false := by
  simp only [Text.isAscii, Bool.and_eq_true, decide_eq_true_eq] at h
  simp only [isLineEnd, List.contains_eq_mem, List.mem_cons, List.not_mem_nil, or_false,
    decide_eq_false_iff_not]
  omega

theorem widest_of_isAscii (hcs : IsAscii cs) : widest cs = cs.length := by
  have hlines (line : List Char) : measuredLines line cs = [line.reverse ++ cs] := by
    induction cs generalizing line with
    | nil => simp [measuredLines]
    | cons c cs ih =>
      obtain ⟨hc, hcs⟩ := List.forall_mem_cons.mp hcs
      simp [measuredLines, isLineEnd_of_isAscii hc, ih hcs]
  rw [widest, hlines, List.reverse_nil, List.nil_append]
  simp [Text.cells_of_isAscii hcs]

/-- The texts of a column that has room for them decide how wide it is. -/
theorem columnMeasure_of_fits (htexts : ∀ cs ∈ texts, IsAscii cs)
    (h : ∀ cs ∈ texts, cs.length + padding ≤ limit) (hlimit : padding < limit) :
    columnMeasure limit texts = columnOf texts := by
  have hcell : ∀ cs ∈ texts, cellMeasure limit cs = cs.length + padding := by
    intro cs hcs
    have hfits := h cs hcs
    rw [cellMeasure, if_neg (by omega), widest_of_isAscii (htexts cs hcs)]
    omega
  rw [columnMeasure, columnOf, List.map_congr_left hcell]

/-- Columns that fit beside each other are not narrowed. -/
theorem columnWidths_of_fits {fields values : List (List Char)} (hfields : ∀ cs ∈ fields, IsAscii cs)
    (hvalues : ∀ cs ∈ values, IsAscii cs) (hfieldWidth : padding < columnOf fields)
    (hvalueWidth : padding ≤ columnOf values) (hw : columnOf fields + columnOf values ≤ w) :
    columnWidths w [fields, values] = [columnOf fields, columnOf values] := by
  have hpadding : padding = 2 := rfl
  have hfieldsFit : columnMeasure w fields = columnOf fields :=
    columnMeasure_of_fits hfields
      (fun cs hcs => Nat.le_trans (le_columnOf hcs) (by omega)) (by omega)
  have hvaluesFit : columnMeasure w values = columnOf values :=
    columnMeasure_of_fits hvalues
      (fun cs hcs => Nat.le_trans (le_columnOf hcs) (by omega)) (by omega)
  have hnatural : ([fields, values].map (columnMeasure w)).map (max 1) =
      [columnOf fields, columnOf values] := by
    rw [List.map_cons, List.map_singleton, List.map_cons, List.map_singleton, hfieldsFit, hvaluesFit,
      Nat.max_eq_right (by omega), Nat.max_eq_right (by omega)]
  rw [columnWidths, hnatural]
  exact if_pos (by simpa [tableWidth] using hw)

/-- A text in a cell, with a blank in front and blanks up to the width of the column behind it. -/
def cellText (column : Nat) (cs : List Char) : List Char := (' ' :: cs).rightpad column ' '

theorem cellText_eq (h : cs.length + padding ≤ column) :
    ' ' :: (cs ++ blanks (column - padding - cs.length)) ++ [' '] = cellText column cs := by
  have hpadding : padding = 2 := rfl
  have hcount : column - (' ' :: cs).length = column - padding - cs.length + 1 := by
    rw [List.length_cons]
    omega
  rw [cellText, List.rightpad, hcount, List.replicate_succ']
  simp [blanks]

theorem cellLines_of_fits {l : Line} (hl : IsAscii (plain l)) (hcolumn : padding < column)
    (hw : l.length + padding ≤ column) : ∃ line, cellLines column l = [line] ∧
      plain line = plain l ++ blanks (column - padding - l.length) := by
  have htext : textWidth l = l.length := textWidth_of_isAscii hl
  have hfilled : IsAscii (plain (l ++ styled [] (blanks (column - padding - l.length)))) := by
    rw [plain_append, plain_styled, Text.isAscii_append]
    exact ⟨hl, Text.isAscii_blanks _⟩
  have hwidth : width (l ++ styled [] (blanks (column - padding - l.length))) = column - padding := by
    rw [width_of_isAscii hfilled, List.length_append, styled, List.length_map, blanks,
      List.length_replicate]
    omega
  refine ⟨l ++ styled [] (blanks (column - padding - l.length)), ?_, by simp⟩
  rw [cellLines, if_neg (by omega), wrap_of_fits hl .ellipsis (by omega), List.map_singleton, htext,
    fit, hwidth, if_neg (by omega), Nat.sub_self]
  exact congrArg (fun k => [k]) (List.append_nil _)

/-- A row that fits is a single line. -/
theorem rowLines_of_fits {r : Row} (hfield : IsAscii r.field) (hvalue : IsAscii (plain r.value))
    (hcolumn : padding < fieldWidth) (hfieldWidth : r.field.length + padding ≤ fieldWidth)
    (hvalueWidth : (plain r.value).length + padding ≤ valueWidth) :
    (rowLines fieldWidth valueWidth r).map plain =
      [cellText fieldWidth r.field ++ cellText valueWidth (plain r.value)] := by
  have hlength : (plain r.value).length = r.value.length := List.length_map _
  obtain ⟨field, hfields, hplain⟩ := cellLines_of_fits (l := styled [] r.field)
    (by rwa [plain_styled]) hcolumn (by rwa [styled, List.length_map])
  rw [plain_styled, styled, List.length_map] at hplain
  have hleft : plain (fieldLine field) = cellText fieldWidth r.field := by
    rw [plain_fieldLine, hplain, cellText_eq hfieldWidth]
  by_cases hroom : padding < valueWidth
  · obtain ⟨value, hvalues, hplain'⟩ := cellLines_of_fits hvalue hroom (hlength ▸ hvalueWidth)
    rw [← hlength] at hplain'
    have hright : plain (valueLine value) = cellText valueWidth (plain r.value) := by
      rw [plain_valueLine, hplain', cellText_eq hvalueWidth]
    simp [rowLines, hfields, hvalues, fillUp, hleft, hright]
  · -- Without room for a value the cell has no lines, and is filled up with the same blanks.
    obtain rfl : valueWidth = padding := by omega
    have hempty : plain r.value = [] := List.eq_nil_of_length_eq_zero (by omega)
    have hright : plain (run [] (blanks padding)) = cellText padding (plain r.value) := by
      rw [plain_run, hempty]
      rfl
    have hvalues : cellLines padding r.value = [] := rfl
    simp [rowLines, hfields, hvalues, fillUp, hleft, hright]

/-- A table that fits has a line for each row. -/
theorem tableLines_of_fits {rs : List Row} (hfields : ∀ r ∈ rs, IsAscii r.field)
    (hvalues : ∀ r ∈ rs, IsAscii (plain r.value)) (hcolumn : padding < columnOf (rs.map Row.field))
    (hw : columnOf (rs.map Row.field) + columnOf (rs.map fun r => plain r.value) ≤ w) :
    (tableLines w rs).map plain = rs.map fun r =>
      cellText (columnOf (rs.map Row.field)) r.field ++
        cellText (columnOf (rs.map fun r => plain r.value)) (plain r.value) := by
  have hvalue {r : Row} (hr : r ∈ rs) :
      (plain r.value).length + padding ≤ columnOf (rs.map fun r => plain r.value) :=
    le_columnOf (List.mem_map_of_mem (f := fun r => plain r.value) hr)
  have hroom : padding ≤ columnOf (rs.map fun r => plain r.value) := by
    cases rs with
    | nil => exact absurd hcolumn (by decide)
    | cons first rs => exact Nat.le_trans (Nat.le_add_left _ _) (hvalue List.mem_cons_self)
  have hrow : ∀ r ∈ rs, (rowLines (columnOf (rs.map Row.field))
      (columnOf (rs.map fun r => plain r.value)) r).map plain =
      [cellText (columnOf (rs.map Row.field)) r.field ++
        cellText (columnOf (rs.map fun r => plain r.value)) (plain r.value)] := fun r hr =>
    rowLines_of_fits (hfields r hr) (hvalues r hr) hcolumn (le_columnOf (List.mem_map_of_mem hr))
      (hvalue hr)
  rw [tableLines, columnWidths_of_fits (List.forall_mem_map.mpr hfields)
    (List.forall_mem_map.mpr hvalues) hcolumn hroom hw]
  dsimp only
  rw [List.map_flatMap, List.flatMap_congr hrow]
  exact List.map_eq_flatMap.symm

theorem length_cellText (h : cs.length + padding ≤ column) : (cellText column cs).length = column := by
  have hpadding : padding = 2 := rfl
  rw [cellText, List.length_rightpad, List.length_cons]
  omega

theorem isAscii_cellText (h : IsAscii cs) : IsAscii (cellText column cs) := by
  rw [cellText, List.rightpad, Text.isAscii_append]
  exact ⟨List.forall_mem_cons.mpr ⟨by decide, h⟩, Text.isAscii_blanks _⟩

end Tables

/-! ### Reports that fit -/

/-- The texts of a report with all three rows, as they are shown. -/
@[ext] structure Shown where
  /-- What is shown of the subject. -/
  subject : List Char
  /-- What is shown of the expectation. -/
  description : List Char
  /-- What is shown of what was found. -/
  reason : List Char
  /-- What is shown of the message, if there is one. -/
  message : Option (List Char)

namespace Shown

/-- The texts in the table. -/
def values (t : Shown) : List (List Char) := [t.subject, t.description, t.reason]

/-- The names of the fields. -/
def fields : List (List Char) := ["Subject".toList, "Expected".toList, "Actual".toList]

/-- The rows of the table. -/
def rows (t : Shown) : List (List Char) :=
  (fields.zip t.values).map fun e => cellText (columnOf fields) e.1 ++ cellText (columnOf t.values) e.2

/-- The lines above the message. -/
def heading (w : Nat) : List (List Char) := [[], plain (crop w (rule title w)), []]

/-- The lines of a report of `w` columns, in which each text is on one line. -/
def lines (t : Shown) (w : Nat) : List (List Char) :=
  heading w ++ t.message.elim [] (fun m => [m, []]) ++ t.rows ++ [[]]

/-- The texts are printable ASCII, and there is room for each of them. -/
structure Fits (t : Shown) (w : Nat) : Prop where
  /-- The rows fit. -/
  values : ∀ cs ∈ t.values, IsAscii cs ∧ cs.length + padding + columnOf fields ≤ w
  /-- The message fits. -/
  message : ∀ m ∈ t.message, IsAscii m ∧ m.length ≤ w

end Shown

/-- The texts of a report as they are shown. -/
def shown (f : Content) : Shown where
  subject := plain (Markup.render (Markup.escape f.subject.toList))
  description := plain (tagged "green" f.description)
  reason := plain (tagged "yellow" f.reason)
  message := if f.message = "" then none else some (plain (messageText f.message))

section Reports

variable {w : Nat} {f : Content}

theorem shown_subject :
    (shown f).subject = plain (Markup.render (Markup.escape f.subject.toList)) := by rw [shown]

theorem shown_description : (shown f).description = plain (tagged "green" f.description) := by
  rw [shown]

theorem shown_reason : (shown f).reason = plain (tagged "yellow" f.reason) := by rw [shown]

theorem map_plain_crop {ls : List Line} (h : ∀ cs ∈ ls.map plain, IsAscii cs ∧ cs.length ≤ w) :
    (ls.map (crop w)).map plain = ls.map plain := by
  rw [List.map_map]
  refine List.map_congr_left fun l hl => ?_
  obtain ⟨hascii, hlength⟩ := h _ (List.mem_map_of_mem hl)
  rw [plain, List.length_map] at hlength
  rw [Function.comp_apply, crop_of_width_le (by rwa [width_of_isAscii hascii])]

theorem columnOf_fields : columnOf Shown.fields = 10 := by decide

theorem isAscii_of_mem_fields : ∀ cs ∈ Shown.fields, IsAscii cs := by decide

theorem Shown.Fits.columns_le {t : Shown} (h : t.Fits w) :
    columnOf t.values + columnOf Shown.fields ≤ w := by
  have hvalues : columnOf t.values ≤ w - columnOf Shown.fields :=
    columnOf_le fun cs hcs => by
      have hcs := (h.values cs hcs).2
      omega
  have hsubject := (h.values t.subject List.mem_cons_self).2
  omega

theorem isAscii_of_mem_rows {t : Shown} (h : ∀ cs ∈ t.values, IsAscii cs) :
    ∀ cs ∈ t.rows, IsAscii cs := by
  intro cs hcs
  obtain ⟨e, he, rfl⟩ := List.mem_map.mp hcs
  obtain ⟨hfield, hvalue⟩ := List.of_mem_zip he
  exact Text.isAscii_append.mpr
    ⟨isAscii_cellText (isAscii_of_mem_fields _ hfield), isAscii_cellText (h _ hvalue)⟩

theorem length_of_mem_rows {t : Shown} {cs : List Char} (h : cs ∈ t.rows) :
    cs.length = columnOf Shown.fields + columnOf t.values := by
  obtain ⟨e, he, rfl⟩ := List.mem_map.mp h
  obtain ⟨hfield, hvalue⟩ := List.of_mem_zip he
  rw [List.length_append, length_cellText (le_columnOf hfield), length_cellText (le_columnOf hvalue)]

theorem map_plain_tableLines (h : (shown f).Fits w) :
    ((tableLines w (rows f true)).map (crop w)).map plain = (shown f).rows := by
  have hfields : (rows f true).map Row.field = Shown.fields := rfl
  have hvalues : ((rows f true).map fun r => plain r.value) = (shown f).values := by
    simp only [rows, if_true, List.cons_append, List.nil_append, List.map_cons, List.map_nil, shown,
      Shown.values]
  have hwidth := h.columns_le
  have hascii : ∀ cs ∈ (shown f).values, IsAscii cs := fun cs hcs => (h.values cs hcs).1
  have htable : (tableLines w (rows f true)).map plain = (shown f).rows := by
    rw [tableLines_of_fits (List.forall_mem_map.mp (hfields ▸ isAscii_of_mem_fields))
      (List.forall_mem_map.mp (hvalues ▸ hascii)) (by rw [hfields]; decide)
      (by rw [hfields, hvalues]; omega), Shown.rows, hfields, hvalues, ← hfields, ← hvalues,
      List.zip_map', List.map_map]
    rfl
  rw [map_plain_crop, htable]
  rw [htable]
  intro cs hcs
  have hlength := length_of_mem_rows hcs
  exact ⟨isAscii_of_mem_rows hascii cs hcs, by omega⟩

theorem map_plain_messageLines (h : (shown f).Fits w) :
    ((messageLines w f.message).map (crop w)).map plain =
      (shown f).message.elim [] fun m => [m, []] := by
  have hmessage := h.message
  rw [messageLines]
  by_cases hempty : f.message = ""
  · simp [shown, hempty]
  · simp only [shown, hempty, if_false, Option.mem_some, forall_eq'] at hmessage ⊢
    obtain ⟨hascii, hlength⟩ := hmessage
    rw [wrap_of_fits hascii .fold (by rwa [plain, List.length_map] at hlength), map_plain_crop]
    · rfl
    · simpa using ⟨⟨hascii, hlength⟩, fun c hc => absurd hc List.not_mem_nil⟩

/-- A report whose texts fit has the lines that these make. -/
theorem lines_of_fits {config : ReportConfig} (hreason : config.showReason = true)
    (h : (shown f).Fits config.width) :
    (lines f config).map plain = (shown f).lines config.width := by
  have hempty : crop config.width [] = [] := crop_of_width_le (Nat.zero_le _)
  rw [lines, layout, hreason, Shown.lines, ← map_plain_messageLines h, ← map_plain_tableLines h]
  simp only [List.map_append, List.map_cons, List.map_nil, Shown.heading, hempty, plain_nil]

end Reports

end Report

end Conformance
