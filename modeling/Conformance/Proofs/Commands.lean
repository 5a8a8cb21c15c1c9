import Conformance.Proofs.Cells
import Conformance.Proofs.Styling

/-!
# Texts with commands of their own

Where the commands for styles are deleted from a line that is printed, those in its own texts go as
well. The line gets no wider by that (`Report.noWider_withoutStyles_print`): what a command takes away
is two columns at least, and that makes up for a joiner or a selector that comes to stand next to other
characters.
-/

namespace Conformance

/-! ### Texts that get shorter -/

namespace Text

variable {c : Char} {cs ps : List Char}

/-- A wide character has no wide form. -/
theorem cellWidth_add_widening_le (c : Char) : cellWidth c + widening (some c) ≤ 2 := by
  have hapart : ∀ p ∈ widenableRanges, ∀ q ∈ wideRanges, q.2 < p.1 ∨ p.2 < q.1 := by decide +kernel
  have hone := widening_le_one (some c)
  by_cases hwide : inRanges wideRanges c.toNat = true
  · have hnarrow : inRanges widenableRanges c.toNat = false := by
      by_contra hwidenable
      obtain ⟨p, hp, hp1, hp2⟩ := inRanges_iff.mp (Bool.not_eq_false _ ▸ hwidenable)
      obtain ⟨q, hq, hq1, hq2⟩ := inRanges_iff.mp hwide
      have hdisjoint := hapart p hp q hq
      omega
    have hzero : widening (some c) = 0 := by simp [widening, hnarrow]
    exact hzero ▸ cellWidth_le_two c
  · have hle : cellWidth c ≤ 1 := by
      rw [cellWidth, if_neg hwide]
      split
      · split <;> omega
      · split
        · omega
        · split <;> omega
    omega

/-- One character more or less in front makes a difference of two columns at most. -/
theorem cellsAfter_tail_bounds (last : Option Char) (cs : List Char) :
    cellsAfter last cs.tail ≤ cellsAfter none cs + 2 ∧ cellsAfter last cs ≤ cellsAfter none cs.tail + 2 := by
  induction cs generalizing last with
  | nil => exact ⟨Nat.zero_le _, Nat.zero_le _⟩
  | cons c cs ih =>
    have hbounds := cellsAfter_le_succ last cs
    rw [List.tail_cons]
    by_cases hjoiner : c = joiner
    · rw [hjoiner, cellsAfter_joiner, cellsAfter_joiner]
      exact ⟨(ih last).2, (ih last).1⟩
    by_cases hselector : c = emojiSelector
    · have hone := widening_le_one last
      rw [hselector, cellsAfter_selector, cellsAfter_selector]
      exact ⟨by omega, by omega⟩
    · have hc : isConnector c = false := by simp [isConnector, hjoiner, hselector]
      have hwidth := cellWidth_add_widening_le c
      have hshown := cellsAfter_bounds (some c) cs
      rw [cellsAfter_cons hc, cellsAfter_cons hc]
      split
      · exact ⟨by omega, by omega⟩
      · exact ⟨by omega, by omega⟩

theorem cellsAfter_append_of_not_connector (hps : ∀ p ∈ ps, isConnector p = false) (hc : cellWidth c ≠ 0)
    (last : Option Char) (cs : List Char) :
    cellWidth c + cellsAfter (some c) cs ≤ cellsAfter last (ps ++ c :: cs) := by
  induction ps generalizing last with
  | nil => exact Nat.le_of_eq (cellsAfter_column hc last cs).symm
  | cons p ps ih =>
    obtain ⟨hp, hps⟩ := List.forall_mem_cons.mp hps
    rw [List.cons_append, cellsAfter_cons hp]
    exact Nat.le_trans (ih hps _) (Nat.le_add_left _ _)

end Text

namespace Report

open Text (NoWider)

/-! ### Deleting commands in texts -/

theorem isConnector_of_isParameter {c : Char} (h : isParameter c = true) : Text.isConnector c = false := by
  have hne {e : Char} (he : isParameter e = false) : c ≠ e :=
    fun heq => Bool.false_ne_true (he.symm.trans (heq ▸ h))
  simp [Text.isConnector, hne (by decide : isParameter Text.joiner = false),
    hne (by decide : isParameter Text.emojiSelector = false)]

/-- A text gets no wider when a command in front of it is deleted. -/
theorem noWider_command {ps : List Char} (hps : ∀ p ∈ ps, isParameter p = true) (cs : List Char) :
    NoWider cs (escapeChar :: '[' :: (ps ++ 'm' :: cs)) := by
  have hbracket : Text.cellWidth '[' = 1 := by decide
  have hletter : Text.cellWidth 'm' = 1 := by decide
  have hescape : Text.cellWidth escapeChar = 0 := by decide
  have hparameters (last : Option Char) :=
    Text.cellsAfter_append_of_not_connector (fun p hp => isConnector_of_isParameter (hps p hp))
      (by decide : Text.cellWidth 'm' ≠ 0) last cs
  have hcommand (last : Option Char) : 2 + Text.cellsAfter (some 'm') cs ≤
      Text.cellsAfter last ('[' :: (ps ++ 'm' :: cs)) := by
    have hrest := hparameters (some '[')
    rw [Text.cellsAfter_column (by decide), hbracket]
    omega
  refine fun last => ⟨?_, ?_⟩
  · have hbounds := Text.cellsAfter_le_succ last cs
    have hbehind := (Text.cellsAfter_bounds (some 'm') cs).1
    have hall := hcommand last
    rw [Text.cellsAfter_cons (by decide), hescape, if_pos rfl, Nat.zero_add]
    omega
  · -- A joiner in front hides the first character of the command, and would hide one of the text.
    have htail := (Text.cellsAfter_tail_bounds last cs).1
    have hbehind := (Text.cellsAfter_bounds (some 'm') cs).1
    have hall := hcommand last
    rw [List.tail_cons]
    omega

theorem of_commandLength? {cs : List Char} {n : Nat} (h : commandLength? cs = some n) :
    ∃ ps ds, cs = '[' :: (ps ++ 'm' :: ds) ∧ (∀ p ∈ ps, isParameter p = true) ∧ n = ps.length + 2 := by
  unfold commandLength? at h
  split at h
  · next cs =>
    dsimp only at h
    split at h
    · next hhead =>
      obtain ⟨ds, hds⟩ := List.head?_eq_some_iff.mp hhead
      refine ⟨cs.takeWhile isParameter, ds, ?_, fun p hp => List.mem_takeWhile_imp hp, ?_⟩
      have hsplit : cs = cs.takeWhile isParameter ++ 'm' :: ds :=
        hds ▸ (List.prefix_iff_eq_append.mp (List.takeWhile_prefix isParameter)).symm
      · exact congrArg ('[' :: ·) hsplit
      · exact (Option.some.inj h).symm
    · cases h
  · cases h

/-! ### Texts with commands put into them -/

/-- The first text is the second one with commands for styles between its characters. -/
inductive Painted : List Char → List Char → Prop where
  /-- The empty text. -/
  | nil : Painted [] []
  /-- A character in front of both. -/
  | char (c : Char) {ts cs : List Char} : Painted ts cs → Painted (c :: ts) (c :: cs)
  /-- A command in front of the first. -/
  | command (s : Style) {ts cs : List Char} : Painted ts cs → Painted (command s ++ ts) cs

namespace Painted

variable {ts us cs ds xs : List Char}

theorem refl (cs : List Char) : Painted cs cs := by
  induction cs with
  | nil => exact .nil
  | cons c cs ih => exact .char c ih

theorem append (h : Painted ts cs) (h' : Painted us ds) : Painted (ts ++ us) (cs ++ ds) := by
  induction h with
  | nil => exact h'
  | char c h ih => exact .char c ih
  | command s h ih =>
    rw [List.append_assoc]
    exact .command s ih

/-- A beginning in which no command begins is that of the text. -/
theorem of_append (h : Painted (xs ++ ts) cs) (hxs : escapeChar ∉ xs) :
    ∃ ds, cs = xs ++ ds ∧ Painted ts ds := by
  induction xs generalizing cs with
  | nil => exact ⟨cs, rfl, h⟩
  | cons x xs ih =>
    rw [List.mem_cons, not_or] at hxs
    generalize hus : x :: xs ++ ts = us at h
    cases h with
    | nil => cases hus
    | char c h =>
      obtain ⟨rfl, rfl⟩ := List.cons.inj hus
      obtain ⟨ds, rfl, hds⟩ := ih h hxs.2
      exact ⟨ds, rfl, hds⟩
    | command s h => exact absurd (List.cons.inj hus).1.symm hxs.1

/-- Without all commands, also those that were in it already, a text is no wider than it was. -/
theorem noWider (h : Painted ts cs) : NoWider (withoutStyles ts) cs := by
  induction hn : ts.length using Nat.strong_induction_on generalizing ts cs with
  | _ n ih =>
    cases h with
    | nil => exact .refl []
    | @char c ts cs h =>
      rw [List.length_cons] at hn
      have hrest : NoWider (withoutStyles ts) cs := ih ts.length (by omega) h rfl
      rw [withoutStyles, withoutStylesFrom]
      split
      · next length heq =>
        obtain ⟨rfl, heq⟩ : c = escapeChar ∧ commandLength? ts = some length := by
          split at heq
          · exact ⟨‹_›, heq⟩
          · cases heq
        -- A command of the text itself: no other one begins in it, so that the text goes on as one.
        obtain ⟨ps, us, rfl, hps, rfl⟩ := of_commandLength? heq
        have hnone : escapeChar ∉ '[' :: (ps ++ ['m']) := by
          simp only [List.mem_cons, List.mem_append, List.not_mem_nil, or_false, not_or]
          exact ⟨by decide, fun hmem => absurd (hps _ hmem) (by decide), by decide⟩
        have hsplit : '[' :: (ps ++ 'm' :: us) = '[' :: (ps ++ ['m']) ++ us := by simp
        obtain ⟨ds, rfl, hds⟩ := of_append (hsplit ▸ h) hnone
        have hdrop : ('[' :: (ps ++ 'm' :: us)).drop (ps.length + 2) = us := by simp
        have hlength : us.length < n := by
          rw [← hn]
          simp
          omega
        rw [withoutStylesFrom_eq_drop, hdrop]
        have hcommand := (ih us.length hlength hds rfl).trans (noWider_command hps ds)
        simpa using hcommand
      · exact hrest.cons c
    | @command s ts cs h =>
      rw [withoutStyles_command_append]
      have hpos : 0 < (Report.command s).length := Nat.succ_pos _
      refine ih ts.length ?_ h rfl
      rw [← hn, List.length_append]
      omega

end Painted

theorem painted_paintRun (s : Style) (cs : List Char) : Painted (paintRun s cs) cs := by
  rw [paintRun]
  split
  · exact .refl cs
  · have hreset : Painted reset [] := by
      have h := Painted.command [0] .nil
      rwa [List.append_nil] at h
    have h := (Painted.command s (.refl cs)).append hreset
    rwa [List.append_nil] at h

theorem painted_paint (l : Line) : Painted (paint l) (plain l) := by
  have hruns (rs : List Line) : Painted
      (rs.flatMap fun r => paintRun ((r.head?.map Glyph.style).getD []) (plain r)) (plain rs.flatten) := by
    induction rs with
    | nil => exact .nil
    | cons r rs ih =>
      rw [List.flatMap_cons, List.flatten_cons, plain_append]
      exact (painted_paintRun _ _).append ih
  have h := hruns (runs l)
  rwa [flatten_runs] at h

theorem painted_print (color : Bool) (l : Line) : Painted (print color l) (plain l) := by
  cases color with
  | false => exact .refl _
  | true => exact painted_paint l

/-- Without all commands, a printed line is no wider than its text. -/
theorem noWider_withoutStyles_print (color : Bool) (l : Line) :
    NoWider (withoutStyles (print color l)) (plain l) := (painted_print color l).noWider

end Report

end Conformance
