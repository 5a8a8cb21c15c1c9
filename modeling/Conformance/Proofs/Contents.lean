import Conformance.Proofs.Handover
import Conformance.Report

/-!
# What a report shows of a failure

A report shows the texts of a failure, which may be objects of classes derived from that of texts.
So there is a report of a failure if and only if what is to be shown of it are texts and the rule
above is not too long for a text (`Report.exists_write_iff`). In particular there is one of each
failure whose texts are texts, as far as its width allows for a rule (`Report.write_failure`).
-/

namespace Conformance

namespace Report

variable {w : World} {f : Failure} {showReason : Bool} {c : Content}

/-! ### Contents -/

theorem addedText_eq_ok_iff {v : Value} {s : String} :
    addedText w v = .ok s ↔ w.textOf? v = some s ∧ s ≠ "" := by
  constructor
  · intro h
    obtain ⟨text, htext, h⟩ := bind_eq_ok_iff.mp h
    split at h
    · cases h
    · next hne =>
      obtain rfl := Except.ok.inj h
      exact ⟨World.patternText_eq_ok_iff.mp htext, hne⟩
  · rintro ⟨h, hne⟩
    rw [addedText, World.patternText_eq_ok_iff.mpr h, ok_bind, if_neg hne]

/-- The texts of a report are read one after the other. -/
theorem contentOf_eq_ok_iff :
    contentOf w f showReason = .ok c ↔
      (∃ counts, w.truth w.evaluator f.message = .ok counts ∧
        (if counts then addedText w f.message else .ok "") = .ok c.message) ∧
      w.textOf? f.subject = some c.subject ∧ w.textOf? f.description = some c.description ∧
      (if showReason then w.patternText f.reason else .ok "") = .ok c.reason := by
  have hsteps : contentOf w f showReason =
      ((w.truth w.evaluator f.message).orFault >>= fun counts =>
        (if counts then addedText w f.message else .ok "") >>= fun message =>
        w.patternText f.subject >>= fun subject =>
        w.patternText f.description >>= fun description =>
        (if showReason then w.patternText f.reason else .ok "") >>= fun reason =>
        .ok ⟨subject, description, reason, message⟩) := by
    unfold contentOf
    refine bind_congr fun counts => ?_
    cases counts <;> cases showReason <;> rfl
  rw [hsteps]
  constructor
  · intro h
    obtain ⟨counts, hcounts, h⟩ := bind_eq_ok_iff.mp h
    obtain ⟨message, hmessage, h⟩ := bind_eq_ok_iff.mp h
    obtain ⟨subject, hsubject, h⟩ := bind_eq_ok_iff.mp h
    obtain ⟨description, hdescription, h⟩ := bind_eq_ok_iff.mp h
    obtain ⟨reason, hreason, h⟩ := bind_eq_ok_iff.mp h
    obtain rfl := Except.ok.inj h
    exact ⟨⟨counts, Outcome.orFault_eq_ok_iff.mp hcounts, hmessage⟩,
      World.patternText_eq_ok_iff.mp hsubject, World.patternText_eq_ok_iff.mp hdescription, hreason⟩
  · rintro ⟨⟨counts, hcounts, hmessage⟩, hsubject, hdescription, hreason⟩
    rw [hcounts, Outcome.orFault_ok, ok_bind, hmessage, ok_bind,
      World.patternText_eq_ok_iff.mpr hsubject, ok_bind,
      World.patternText_eq_ok_iff.mpr hdescription, ok_bind, hreason, ok_bind]

/-- The failure with these texts. -/
def Content.failure (f : Content) : Failure :=
  ⟨.str f.subject, .str f.description, .str f.reason, .str f.message⟩

/-- What is shown of such a failure are its texts, but for the last one only if it is to be shown.
-/
theorem contentOf_failure (w : World) (f : Content) (showReason : Bool) :
    contentOf w f.failure showReason =
      .ok { f with reason := if showReason then f.reason else "" } := by
  obtain ⟨subject, description, reason, message⟩ := f
  have hadded (h : message ≠ "") : addedText w (.str message) = .ok message := by
    rw [addedText, World.patternText_str, ok_bind, if_neg h]
  unfold contentOf Content.failure
  rw [World.truth_str, Outcome.orFault_ok, ok_bind]
  by_cases hempty : message = ""
  · subst hempty
    cases showReason <;> rfl
  · simp only [ne_eq, hempty, not_false_eq_true, decide_true, if_true, hadded hempty]
    cases showReason <;> rfl

/-- There is always a report of a failure whose texts are texts. -/
theorem ofFailure_failure (w : World) (f : Content) (config : ReportConfig) :
    ofFailure w f.failure (.columns config) = .ok (render f config) := by
  have hlines : lines { f with reason := if config.showReason then f.reason else "" } config =
      lines f config := by
    cases hreason : config.showReason <;>
      simp only [lines, layout, rows, hreason, Bool.false_eq_true, if_false, if_true]
  rw [ofFailure, contentOf_failure, Except.map, render, hlines, render]

/-! ### Rules -/

/-- The greatest width of a report whose rule is not too long for a text. -/
def widestRule : Nat := 18446744073709551636

/-- The title takes its columns and no more, where there is room for it. -/
theorem sideWidth_of_lt {n : Nat} (h : 26 < n) : sideWidth title n = (n - 23) / 2 := by
  have htitle : textWidth (run titleStyle title) = 23 := by decide +kernel
  have hwidth : width (run titleStyle title) = 23 := by decide +kernel
  have hroom : 23 ≤ n - 4 := by omega
  have hfits : textWidth (run titleStyle title) ≤ n - ruleEnds := by
    rw [htitle]
    exact hroom
  rw [sideWidth, shorten, if_pos hfits, hwidth]

/-- The rule can be drawn up to a width that is about twice the length of the longest text. -/
theorem sideWidth_lt_iff {n : Nat} : sideWidth title n < maxLength ↔ n ≤ widestRule := by
  have hmax : maxLength = 9223372036854775807 := rfl
  have hwidest : widestRule = 18446744073709551636 := rfl
  by_cases h : 26 < n
  · rw [sideWidth_of_lt h]
    omega
  · have hside : sideWidth title n ≤ n / 2 := Nat.div_le_div_right (Nat.sub_le n _)
    omega

variable {config : ReportConfig}

theorem checkRule_of_le (h : config.width ≤ widestRule) : checkRule (.columns config) = .ok () := by
  rw [checkRule, if_pos (sideWidth_lt_iff.mpr h)]

/-- A failure whose texts are texts is written as it is laid out. -/
theorem write_failure {f : Content} (h : config.width ≤ widestRule) :
    write w f.failure (.columns config) = .ok (render f config) := by
  rw [write, checkRule_of_le h, ok_bind, ofFailure_failure]

end Report

end Conformance
