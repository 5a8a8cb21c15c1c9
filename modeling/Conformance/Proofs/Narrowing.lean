import Conformance.Proofs.LineWidths
import Mathlib.Data.List.Fold
import Mathlib.Data.List.MinMax
import Mathlib.Order.Nat

/-!
# How wide tables are

A table that is too wide is narrowed step by step, and each step takes a column away at least
(`Report.tableWidth_reduce_lt`), so that there are steps enough until it fits
(`Report.tableWidth_columnWidths_le`). The cells of a row fit in their columns, and what they begin with
keeps them apart, so that no row is wider than the table (`Report.textWidth_of_mem_tableLines`).
-/

namespace Conformance.Report

open Text (joiner cellWidth)

variable {limit most total shares b : Nat} {ws : List Nat}

/-! ### Widths of columns -/

theorem foldl_max_le (h : ∀ x ∈ ws, x ≤ b) : ws.foldl max 0 ≤ b := by
  rw [List.foldl_eq_foldr]
  exact List.max_le_of_forall_le ws b h

theorem le_foldl_max {x : Nat} (h : x ∈ ws) : x ≤ ws.foldl max 0 := by
  rw [List.foldl_eq_foldr]
  exact List.le_max_of_le' 0 h (Nat.le_refl x)

/-- A column is no wider than it may be. -/
theorem columnMeasure_le (limit : Nat) (texts : List (List Char)) : columnMeasure limit texts ≤ limit := by
  refine foldl_max_le fun n hn => ?_
  obtain ⟨cs, -, rfl⟩ := List.mem_map.mp hn
  rw [cellMeasure]
  split
  · exact Nat.le_refl _
  · exact Nat.min_le_left _ _

@[simp] theorem tableWidth_cons (n : Nat) (ws : List Nat) : tableWidth (n :: ws) = n + tableWidth ws := rfl

/-! ### Narrowing -/

theorem tableWidth_reduce_le (most total shares : Nat) (es : List (Nat × Bool)) :
    tableWidth (reduce most total shares es) ≤ tableWidth (es.map Prod.fst) := by
  induction es generalizing total shares with
  | nil => exact Nat.le_refl _
  | cons e es ih =>
    obtain ⟨n, marked⟩ := e
    rw [reduce, List.map_cons]
    split
    · exact Nat.add_le_add (Nat.sub_le _ _) (ih _ _)
    · exact Nat.add_le_add_left (ih _ _) n

/-- Widths become less where there is something to be taken from marked ones. A share may be nothing,
but the last one is all that is left. -/
theorem tableWidth_reduce_lt (hmost : 0 < most) (htotal : 0 < total) {es : List (Nat × Bool)}
    (hshares : 0 < es.countP Prod.snd) (hes : ∀ e ∈ es, e.2 = true → 0 < e.1) :
    tableWidth (reduce most total (es.countP Prod.snd) es) < tableWidth (es.map Prod.fst) := by
  induction es generalizing total with
  | nil => exact absurd hshares (Nat.lt_irrefl 0)
  | cons e es ih =>
    obtain ⟨hwidth, hrest⟩ := List.forall_mem_cons.mp hes
    obtain ⟨n, marked⟩ := e
    rw [List.map_cons, tableWidth_cons]
    cases marked with
    | false =>
      have hcount : ((n, false) :: es).countP Prod.snd = es.countP Prod.snd :=
        List.countP_cons_of_neg (by simp)
      rw [hcount] at hshares ⊢
      rw [reduce, if_neg (by simp), tableWidth_cons]
      exact Nat.add_lt_add_left (ih htotal hshares hrest) n
    | true =>
      have hcount : ((n, true) :: es).countP Prod.snd = es.countP Prod.snd + 1 :=
        List.countP_cons_of_pos rfl
      have hn : 0 < n := hwidth rfl
      rw [hcount, reduce, if_pos ⟨rfl, Nat.succ_ne_zero _, Nat.ne_of_gt hmost⟩, tableWidth_cons,
        Nat.add_sub_cancel]
      by_cases hpart : min most (Number.roundDiv total (es.countP Prod.snd + 1)) = 0
      · -- Nothing is taken from this width, so that it is not the last one.
        have hothers : 0 < es.countP Prod.snd := by
          by_contra hnone
          have hall : Number.roundDiv total 1 = total := by
            simpa using Number.roundDiv_mul_self (n := total) (d := 1) Nat.one_pos
          rw [Nat.eq_zero_of_not_pos hnone, hall] at hpart
          omega
        rw [hpart, Nat.sub_zero, Nat.sub_zero]
        exact Nat.add_lt_add_left (ih htotal hothers hrest) n
      · have hle := tableWidth_reduce_le most
          (total - min most (Number.roundDiv total (es.countP Prod.snd + 1))) (es.countP Prod.snd) es
        omega

theorem foldl_max_pos (h : 0 < tableWidth ws) : 0 < ws.foldl max 0 := by
  by_contra hzero
  have hall : ∀ n ∈ ws, n = 0 := fun n hn =>
    Nat.le_zero.mp (Nat.le_trans (le_foldl_max hn) (Nat.le_of_not_lt hzero))
  have htotal : tableWidth ws = 0 := by
    clear h hzero
    induction ws with
    | nil => rfl
    | cons n ws ih =>
      obtain ⟨rfl, hws⟩ := List.forall_mem_cons.mp hall
      exact (Nat.zero_add _).trans (ih hws)
  omega

theorem secondWidest_lt (h : 0 < ws.foldl max 0) : secondWidest ws < ws.foldl max 0 := by
  have hle : secondWidest ws ≤ ws.foldl max 0 - 1 := foldl_max_le fun n hn => by
    obtain ⟨hmem, hne⟩ := List.mem_filter.mp hn
    have hmax := le_foldl_max hmem
    have hne : n ≠ ws.foldl max 0 := by simpa using hne
    omega
  omega

/-- The widest of widths is one of them. -/
theorem countP_markWidest_pos (h : 0 < ws.foldl max 0) : 0 < (markWidest ws).countP Prod.snd := by
  by_contra hnone
  have hle : ws.foldl max 0 ≤ ws.foldl max 0 - 1 := foldl_max_le fun n hn => by
    have hmax := le_foldl_max hn
    have hne : n ≠ ws.foldl max 0 := by
      rintro heq
      refine hnone (List.countP_pos_iff.mpr ⟨(n, n == ws.foldl max 0), List.mem_map_of_mem hn, ?_⟩)
      exact beq_iff_eq.mpr heq
    omega
  omega

/-- Narrowing ends with a table that fits. -/
theorem tableWidth_collapse_le {steps : Nat} (h : tableWidth ws ≤ limit + steps) :
    tableWidth (collapse limit steps ws) ≤ limit := by
  induction steps generalizing ws with
  | zero => exact h
  | succ steps ih =>
    rw [collapse]
    split
    · assumption
    · next hwide =>
      have hmax : 0 < ws.foldl max 0 := foldl_max_pos (by omega)
      have hsecond := secondWidest_lt hmax
      have hmarked : ∀ e ∈ markWidest ws, e.2 = true → 0 < e.1 := by
        intro e he hsnd
        obtain ⟨n, -, rfl⟩ := List.mem_map.mp he
        have heq : n = ws.foldl max 0 := beq_iff_eq.mp hsnd
        exact heq ▸ hmax
      have htotal : 0 < tableWidth ws - limit := by omega
      have hmost : 0 < min (tableWidth ws - limit) (ws.foldl max 0 - secondWidest ws) := by omega
      have hstep := tableWidth_reduce_lt hmost htotal (countP_markWidest_pos hmax) hmarked
      have hfst : (markWidest ws).map Prod.fst = ws := by simp [markWidest, Function.comp_def]
      rw [hfst] at hstep
      exact ih (by omega)

/-- The columns of a table fit beside each other. -/
theorem tableWidth_columnWidths_le (limit : Nat) (columns : List (List (List Char))) :
    tableWidth (columnWidths limit columns) ≤ limit := by
  have hmeasured (ws : List Nat) (columns : List (List (List Char))) :
      tableWidth ((ws.zip columns).map fun e => columnMeasure e.1 e.2) ≤ tableWidth ws := by
    induction ws generalizing columns with
    | nil => exact Nat.le_refl _
    | cons n ws ih =>
      cases columns with
      | nil => exact Nat.zero_le _
      | cons texts columns => exact Nat.add_le_add (columnMeasure_le n texts) (ih columns)
  rw [columnWidths]
  dsimp only
  split
  · assumption
  · exact Nat.le_trans (hmeasured _ _) (tableWidth_collapse_le (Nat.le_add_left _ _))

/-! ### Rows -/

variable {fieldWidth valueWidth column : Nat} {s : Style} {r : Row} {l : Line} {cs : List Char}

/-- A text that a cell shows in a line of its row. -/
inductive IsCellText (column : Nat) (text : Line) : List Char → Prop where
  /-- A line of the cell between blanks. -/
  | line {k : Line} : k ∈ cellLines column text → IsCellText column text (' ' :: plain k ++ [' '])
  /-- Blanks where the cell has no line. -/
  | blank : IsCellText column text (blanks column)

theorem IsCellText.cells_le (h : IsCellText column l cs) (hl : IsSteady s l) : Text.cells cs ≤ column := by
  cases h with
  | @line k hk =>
    have hpadding : padding = 2 := rfl
    have hblank : Text.cells [' '] = 1 := rfl
    have hwidth := textWidth_of_mem_cellLines hl hk
    have hfirst : ([] : List Char).getLast? ≠ some joiner := by simp
    have hfront := Text.cells_append_le (.blank (plain k) hfirst)
    have hbehind := Text.cells_append_blanks_le (' ' :: plain k) 1
    rw [List.nil_append, List.singleton_append, hblank] at hfront
    rw [textWidth] at hwidth
    rw [List.replicate_one] at hbehind
    omega
  | blank => exact Nat.le_of_eq (Text.cells_replicate_blank column)

theorem IsCellText.cells_append_le (h : IsCellText column l cs) (xs : List Char) :
    Text.cells (xs ++ cs) ≤ Text.cells xs + Text.cells cs := by
  cases h with
  | @line k => exact Text.cells_append_le (.column xs _ (by decide))
  | blank =>
    have hblanks := Text.cells_append_blanks_le xs column
    rw [blanks, Text.cells_replicate_blank]
    exact hblanks

/-- A line of a row is blank, or shows both cells. -/
theorem plain_of_mem_rowLines (h : l ∈ rowLines fieldWidth valueWidth r) :
    plain l = blanks (fieldWidth + valueWidth) ∨
    ∃ cs ds, plain l = cs ++ ds ∧ IsCellText fieldWidth (styled [] r.field) cs ∧
      IsCellText valueWidth r.value ds := by
  have hfill {column n : Nat} {s : Style} {text l : Line} {f : Line → Line}
      (hf : ∀ k, plain (f k) = ' ' :: plain k ++ [' '])
      (hl : l ∈ fillUp n (run s (blanks column)) ((cellLines column text).map f)) :
      IsCellText column text (plain l) := by
    rcases List.mem_append.mp hl with hl | hl
    · obtain ⟨k, hk, rfl⟩ := List.mem_map.mp hl
      exact hf k ▸ .line hk
    · rw [List.eq_of_mem_replicate hl, plain_run]
      exact .blank
  rw [rowLines] at h
  dsimp only at h
  split at h
  · rw [List.mem_singleton.mp h, plain_styled]
    exact .inl rfl
  · obtain ⟨e, he, rfl⟩ := List.mem_map.mp h
    obtain ⟨hleft, hright⟩ := List.of_mem_zip he
    exact .inr ⟨_, _, plain_append _ _, hfill plain_fieldLine hleft, hfill plain_valueLine hright⟩

theorem textWidth_of_mem_rowLines (hfield : IsSteady [] (styled [] r.field)) (hvalue : IsSteady s r.value)
    (h : l ∈ rowLines fieldWidth valueWidth r) : textWidth l ≤ fieldWidth + valueWidth := by
  rw [textWidth]
  rcases plain_of_mem_rowLines h with hblank | ⟨cs, ds, hplain, hcs, hds⟩
  · rw [hblank, blanks, Text.cells_replicate_blank]
  · rw [hplain]
    exact Nat.le_trans (hds.cells_append_le cs) (Nat.add_le_add (hcs.cells_le hfield) (hds.cells_le hvalue))

/-- The lines of a table are those of its rows, in columns that fit beside each other. -/
theorem exists_of_mem_tableLines {w : Nat} {rs : List Row} (h : l ∈ tableLines w rs) :
    ∃ fieldWidth valueWidth, fieldWidth + valueWidth ≤ w ∧ ∃ r ∈ rs, l ∈ rowLines fieldWidth valueWidth r := by
  rw [tableLines] at h
  split at h
  · next fieldWidth valueWidth heq =>
    have hfits := tableWidth_columnWidths_le w [rs.map Row.field, rs.map fun r => plain r.value]
    rw [heq] at hfits
    exact ⟨fieldWidth, valueWidth, hfits, List.mem_flatMap.mp h⟩
  · cases h

end Conformance.Report
