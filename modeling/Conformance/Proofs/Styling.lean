import Conformance.Proofs.Contents
import Conformance.Proofs.Provenance
import Conformance.Text.Split

/-!
# Colour makes no difference to the text

A coloured report has commands for styles in it, and is the report without colour apart from them.
What a line is painted as gives the line back when the commands are deleted
(`Report.withoutStyles_paint_append`), because no line has the character in it that a command begins
with: layout does not bring it in, and neither do emoji and tags (`Report.escapeChar_not_mem_lines`).
-/

namespace Conformance

namespace Report

/-! ### Deleting commands -/

/-- A character of the parameters of a command. -/
def isParameter (c : Char) : Bool := c.isDigit || c == ';'

/-- The length of what belongs to a command for a style behind its first character, if the text goes
on as one. -/
def commandLength? : List Char → Option Nat
  | '[' :: cs =>
    let n := (cs.takeWhile isParameter).length
    if (cs.drop n).head? = some 'm' then some (n + 2) else none
  | _ => none

/-- The text without commands for styles. The first `skipped` characters belong to a command that has
been read already. -/
def withoutStylesFrom : (skipped : Nat) → List Char → List Char
  | _, [] => []
  | skipped + 1, _ :: cs => withoutStylesFrom skipped cs
  | 0, c :: cs =>
    match if c = escapeChar then commandLength? cs else none with
    | some n => withoutStylesFrom n cs
    | none => c :: withoutStylesFrom 0 cs

/-- The text without commands for styles. -/
def withoutStyles (cs : List Char) : List Char := withoutStylesFrom 0 cs

theorem withoutStylesFrom_eq_drop (skipped : Nat) (cs : List Char) :
    withoutStylesFrom skipped cs = withoutStyles (cs.drop skipped) := by
  induction skipped generalizing cs with
  | zero => rfl
  | succ skipped ih =>
    cases cs with
    | nil => rfl
    | cons c cs => exact ih cs

/-- A text in which no command begins stays as it is. -/
theorem withoutStyles_append {cs : List Char} (h : escapeChar ∉ cs) (ds : List Char) :
    withoutStyles (cs ++ ds) = cs ++ withoutStyles ds := by
  induction cs with
  | nil => rfl
  | cons c cs ih =>
    simp only [List.mem_cons, not_or] at h
    rw [List.cons_append, withoutStyles, withoutStylesFrom, if_neg (Ne.symm h.1)]
    exact congrArg (c :: ·) (ih h.2)

theorem isParameter_of_mem {s : Style} {c : Char}
    (h : c ∈ (";".intercalate (s.map toString)).toList) : isParameter c = true := by
  by_contra hc
  obtain ⟨hdigit, hsep⟩ : c.isDigit ≠ true ∧ c ≠ ';' := by simpa [isParameter] using hc
  have hdigits : ∀ piece ∈ (s.map toString).map String.toList, c ∉ piece := by
    simp only [List.mem_map, forall_exists_index, and_imp, forall_apply_eq_imp_iff₂]
    intro n _ hmem
    exact hdigit (Nat.isDigit_of_mem_toDigits (by decide) (by decide) (Nat.toList_repr ▸ hmem))
  rw [String.toList_intercalate] at h
  exact Text.not_mem_joinWith hsep hdigits (Text.intercalate_eq_joinWith ';' _ ▸ h)

/-- A command is deleted. -/
theorem withoutStyles_command_append (s : Style) (ds : List Char) :
    withoutStyles (command s ++ ds) = withoutStyles ds := by
  obtain ⟨params, hparams⟩ : ∃ params, (";".intercalate (s.map toString)).toList = params := ⟨_, rfl⟩
  have htake : (params ++ 'm' :: ds).takeWhile isParameter = params := by
    rw [List.takeWhile_append_of_pos fun c hc => isParameter_of_mem (hparams ▸ hc)]
    simp [isParameter]
  have hcommand : command s ++ ds = escapeChar :: '[' :: (params ++ 'm' :: ds) := by
    simp [command, ← hparams]
  rw [hcommand, withoutStyles, withoutStylesFrom, if_pos rfl, commandLength?, htake, List.drop_left,
    List.head?_cons, if_pos rfl]
  dsimp only
  rw [withoutStylesFrom_eq_drop]
  simp

theorem withoutStyles_paintRun_append (s : Style) {cs : List Char} (h : escapeChar ∉ cs)
    (ds : List Char) : withoutStyles (paintRun s cs ++ ds) = cs ++ withoutStyles ds := by
  rw [paintRun]
  split
  · exact withoutStyles_append h ds
  · rw [List.append_assoc, List.append_assoc, withoutStyles_command_append, withoutStyles_append h,
      reset, withoutStyles_command_append]

/-- Without its commands, a line is shown as it is without colour. -/
theorem withoutStyles_paint_append {l : Line} (h : escapeChar ∉ plain l) (ds : List Char) :
    withoutStyles (paint l ++ ds) = plain l ++ withoutStyles ds := by
  suffices ∀ rs : List Line, escapeChar ∉ plain rs.flatten →
      withoutStyles (rs.flatMap (fun r => paintRun ((r.head?.map Glyph.style).getD []) (plain r)) ++ ds) =
        plain rs.flatten ++ withoutStyles ds by
    have hruns := this (runs l)
    rw [flatten_runs] at hruns
    exact hruns h
  intro rs hrs
  induction rs with
  | nil => rfl
  | cons r rs ih =>
    rw [List.flatten_cons, plain_append, List.mem_append, not_or] at hrs
    rw [List.flatMap_cons, List.append_assoc, withoutStyles_paintRun_append _ hrs.1, ih hrs.2,
      List.flatten_cons, plain_append, List.append_assoc]

/-- The lines of a report as they are printed. -/
def printed (color : Bool) (ls : List Line) : List Char :=
  ls.flatMap fun l => print color l ++ ['\n']

theorem withoutStyles_printed {ls : List Line} (h : ∀ l ∈ ls, escapeChar ∉ plain l) :
    withoutStyles (printed true ls) = printed false ls := by
  induction ls with
  | nil => rfl
  | cons l ls ih =>
    simp only [List.mem_cons, forall_eq_or_imp] at h
    have hnewline : escapeChar ∉ ['\n'] := by decide
    have hcons (color : Bool) :
        printed color (l :: ls) = print color l ++ (['\n'] ++ printed color ls) := by
      simp [printed]
    rw [hcons, hcons, ← ih h.2, ← withoutStyles_append hnewline]
    exact withoutStyles_paint_append h.1 _

theorem escapeChar_not_mem_printed {ls : List Line} (h : ∀ l ∈ ls, escapeChar ∉ plain l) :
    escapeChar ∉ printed false ls := by
  simp only [printed, List.mem_flatMap, not_exists, not_and, List.mem_append, not_or]
  exact fun l hl => ⟨h l hl, by decide⟩

/-! ### Lines without commands -/

/-- No text of a report has the character in it that a command begins with. -/
structure Content.IsUnstyled (f : Content) : Prop where
  subject : escapeChar ∉ f.subject.toList
  description : escapeChar ∉ f.description.toList
  reason : escapeChar ∉ f.reason.toList
  message : escapeChar ∉ f.message.toList

theorem comesFromTexts_escapeChar : ComesFromTexts escapeChar :=
  ⟨by decide, by decide, by decide, by decide⟩

/-- No line of a report has it then. -/
theorem escapeChar_not_mem_lines {f : Content} (hf : f.IsUnstyled) (config : ReportConfig) :
    ∀ l ∈ lines f config, escapeChar ∉ plain l :=
  not_mem_lines comesFromTexts_escapeChar hf.subject hf.description hf.reason hf.message config

/-! ### Reports -/

end Report

/-- The configuration with or without colour. -/
def ReportConfig.withColor (color : Bool) (config : ReportConfig) : ReportConfig :=
  { config with color := color }

/-- The terminal with or without colour. -/
def Terminal.withColor (color : Bool) : Terminal → Terminal
  | .columns config => .columns (config.withColor color)
  | .sliver showReason => .sliver showReason

/-- No text of a failure has the character in it that a command begins with. -/
def Failure.IsUnstyled (w : World) (f : Failure) : Prop :=
  ∀ v ∈ [f.subject, f.description, f.reason, f.message], ∀ s, w.textOf? v = some s →
    Report.escapeChar ∉ s.toList

namespace Report

/-- Terminals of the same width differ in colour only. -/
theorem create_eq_map_withColor (width : Value) (color showReason : Bool) :
    Terminal.create width color showReason =
      (Terminal.create width true showReason).map (Terminal.withColor color) := by
  have hconfig (n : Int) : ReportConfig.ofWidth n color showReason =
      (ReportConfig.ofWidth n true showReason).map (ReportConfig.withColor color) := by
    unfold ReportConfig.ofWidth
    split <;> rfl
  have hsliver (x : Number.Binary64) : Terminal.ofFraction x showReason =
      (Terminal.ofFraction x showReason).map (Terminal.withColor color) := by
    unfold Terminal.ofFraction
    split
    · rfl
    · split <;> rfl
  have hwidth : (width.toInt?.bind fun n => ReportConfig.ofWidth n color showReason) =
      (width.toInt?.bind fun n => ReportConfig.ofWidth n true showReason).map
        (ReportConfig.withColor color) := by
    cases width.toInt? with
    | none => rfl
    | some n => exact hconfig n
  unfold Terminal.create
  rw [hwidth]
  cases ReportConfig.checkWidth width with
  | error e => rfl
  | ok u =>
    cases width.toInt?.bind fun n => ReportConfig.ofWidth n true showReason with
    | some config => rfl
    | none =>
      cases width with
      | float x => exact hsliver x
      | _ => rfl

variable {w : World} {f : Failure} {showReason : Bool} {c : Content}

variable (w) in
/-- The report of a failure on a terminal of the given width. -/
def ofWidth (f : Failure) (width : Value) (color showReason : Bool) : Except Fault String :=
  Terminal.create width color showReason >>= write w f

theorem isUnstyled_of_contentOf (hf : f.IsUnstyled w) (h : contentOf w f showReason = .ok c) :
    c.IsUnstyled := by
  have hnone : escapeChar ∉ "".toList := by decide
  have htext {v : Value} {s : String} (hv : v ∈ [f.subject, f.description, f.reason, f.message])
      (hs : w.textOf? v = some s) : escapeChar ∉ s.toList := hf v hv s hs
  obtain ⟨⟨counts, -, hmessage⟩, hsubject, hdescription, hreason⟩ := contentOf_eq_ok_iff.mp h
  refine ⟨htext (by simp) hsubject, htext (by simp) hdescription, ?_, ?_⟩
  · split at hreason
    · exact htext (by simp) (World.patternText_eq_ok_iff.mp hreason)
    · exact Except.ok.inj hreason ▸ hnone
  · split at hmessage
    · exact htext (by simp) (addedText_eq_ok_iff.mp hmessage).1
    · exact Except.ok.inj hmessage ▸ hnone

theorem render_eq_printed (f : Content) (config : ReportConfig) :
    render f config = String.ofList (printed config.color (lines f config)) := rfl

/-- The text without commands for styles. -/
def unstyled (s : String) : String := String.ofList (withoutStyles s.toList)

/-- On one terminal, colour makes a difference to styles only. -/
theorem ofFailure_withColor (hf : f.IsUnstyled w) (t : Terminal) :
    ofFailure w f (t.withColor false) = (ofFailure w f (t.withColor true)).map unstyled ∧
    ∀ s, ofFailure w f (t.withColor false) = .ok s → escapeChar ∉ s.toList := by
  cases t with
  | sliver showReason =>
    simp only [Terminal.withColor, ofFailure]
    cases contentOf w f showReason with
    | error e => exact ⟨rfl, by rintro s ⟨⟩⟩
    | ok c => exact ⟨rfl, by rintro s ⟨⟩; exact List.not_mem_nil⟩
  | columns config =>
    simp only [Terminal.withColor, ofFailure, ReportConfig.withColor]
    cases h : contentOf w f config.showReason with
    | error e => exact ⟨rfl, by rintro s ⟨⟩⟩
    | ok c =>
      have hlines := escapeChar_not_mem_lines (isUnstyled_of_contentOf hf h) config
      constructor
      · have hunstyled := withoutStyles_printed hlines
        simp only [Except.map, render_eq_printed, unstyled, String.toList_ofList]
        exact congrArg (Except.ok ∘ String.ofList) hunstyled.symm
      · rintro s ⟨⟩
        dsimp only
        rw [render_eq_printed, String.toList_ofList]
        exact escapeChar_not_mem_printed hlines

/-- Whether a rule can be drawn does not depend on colour. -/
theorem checkRule_withColor (t : Terminal) (color : Bool) :
    checkRule (t.withColor color) = checkRule t := by
  cases t <;> rfl

theorem write_withColor (hf : f.IsUnstyled w) (t : Terminal) :
    write w f (t.withColor false) = (write w f (t.withColor true)).map unstyled ∧
    ∀ s, write w f (t.withColor false) = .ok s → escapeChar ∉ s.toList := by
  simp only [write, checkRule_withColor]
  cases checkRule t with
  | error e => exact ⟨rfl, by rintro s ⟨⟩⟩
  | ok u => exact ofFailure_withColor hf t

/-- Colour makes a difference to styles only: without the commands for them, a coloured report is the
report without colour, which has none. -/
theorem color_styles_only (w : World) (f : Failure) (hf : f.IsUnstyled w) (width : Value)
    (showReason : Bool) :
    ofWidth w f width false showReason = (ofWidth w f width true showReason).map unstyled ∧
    ∀ s, ofWidth w f width false showReason = .ok s → escapeChar ∉ s.toList := by
  have hwidth (color : Bool) : ofWidth w f width color showReason =
      Terminal.create width true showReason >>= fun t => write w f (t.withColor color) := by
    rw [ofWidth, create_eq_map_withColor]
    cases Terminal.create width true showReason <;> rfl
  rw [hwidth, hwidth]
  cases Terminal.create width true showReason with
  | error e => exact ⟨rfl, by rintro s ⟨⟩⟩
  | ok t => exact write_withColor hf t

/-- The failure of a test for a private method, of a class that has none. -/
def missingMethod : Failure :=
  ⟨.str "'m.K'", .str "has private method a()", .str "m.K has no method a", .str "see [a]"⟩

/-- Of this failure there are reports of forty columns. The one with colour has commands in it, and
without them it is the other one. -/
theorem color_styles_only_missingMethod :
    missingMethod.IsUnstyled {} ∧ ∃ coloured,
      ofWidth {} missingMethod (.int 40) true true = .ok coloured ∧ escapeChar ∈ coloured.toList ∧
      ofWidth {} missingMethod (.int 40) false true = .ok (unstyled coloured) ∧
      escapeChar ∉ (unstyled coloured).toList := by
  have hf : missingMethod.IsUnstyled {} := by
    simp only [Failure.IsUnstyled, missingMethod, List.mem_cons, List.not_mem_nil, or_false,
      forall_eq_or_imp, forall_eq, World.textOf?_str, Option.some.injEq, forall_eq']
    decide
  let config : ReportConfig := { width := 40 }
  let content : Content :=
    ⟨"'m.K'", "has private method a()", "m.K has no method a", "see [a]"⟩
  have hcoloured : ofWidth {} missingMethod (.int 40) true true = .ok (render content config) := by
    have hterminal : Terminal.create (.int 40) true true = .ok (.columns config) := rfl
    have hfailure : missingMethod = content.failure := rfl
    rw [ofWidth, hterminal, ok_bind, hfailure, write_failure (by decide)]
  -- the rule is printed in a style of its own
  have hcommand : escapeChar ∈ (render content config).toList := by
    have hrule : rule title 40 ∈ layout content config :=
      List.mem_append_left _ (List.mem_append_left _ (List.mem_append_left _
        (List.mem_cons_of_mem _ List.mem_cons_self)))
    rw [render_eq_printed, String.toList_ofList, printed]
    exact List.mem_flatMap.mpr ⟨_, List.mem_map_of_mem hrule, by decide +kernel⟩
  obtain ⟨hplain, hnone⟩ := color_styles_only {} missingMethod hf (.int 40) true
  rw [hcoloured] at hplain
  exact ⟨hf, _, hcoloured, hcommand, hplain, hnone _ hplain⟩

end Report

end Conformance
