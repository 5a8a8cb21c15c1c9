import Conformance.Proofs.Outcome
import Conformance.Proofs.Words
import Conformance.Settings
import Mathlib.Data.Nat.Digits.Defs

/-!
# The settings of reports

A width setting is a numeral of a positive number, or it is refused. `Text.Numeral` says without
reading what a numeral is: blanks around a sign, which may be missing, and decimal digits of any system
with single underscores between them. Reading gives a number exactly for its numerals
(`Text.readInteger_eq_ok_iff`), so the settings make a configuration exactly where the width setting
asks for a positive number, and every other setting is an error of usage
(`Settings.reportConfig_answers`).
-/

namespace Conformance

namespace Text

/-! ### Numerals -/

/-- The code points with the property of being white space. -/
def whiteSpaceCodes : List Nat :=
  [0x9, 0xa, 0xb, 0xc, 0xd, 0x20, 0x85, 0xa0, 0x1680, 0x2000, 0x2001, 0x2002, 0x2003, 0x2004,
   0x2005, 0x2006, 0x2007, 0x2008, 0x2009, 0x200a, 0x2028, 0x2029, 0x202f, 0x205f, 0x3000]

/-- The text consists of white space. -/
def IsWhiteSpace (cs : List Char) : Prop := ∀ c ∈ cs, c.toNat ∈ whiteSpaceCodes

/-- Decimal digits of any system with these values, with at most one underscore between two of them. -/
inductive DigitsText : List Nat → List Char → Prop where
  /-- A single digit. -/
  | single {c : Char} {d : Nat} : decimalValue? c = some d → DigitsText [d] [c]
  /-- A digit in front of others. -/
  | digit {c : Char} {d : Nat} {ds : List Nat} {cs : List Char} :
      decimalValue? c = some d → DigitsText ds cs → DigitsText (d :: ds) (c :: cs)
  /-- A digit and an underscore in front of others. -/
  | underscore {c : Char} {d : Nat} {ds : List Nat} {cs : List Char} :
      decimalValue? c = some d → DigitsText ds cs → DigitsText (d :: ds) (c :: '_' :: cs)

/-- What may stand in front of digits, and whether it is a minus sign. -/
inductive SignText : Bool → List Char → Prop where
  /-- Nothing. -/
  | none : SignText false []
  /-- A plus sign. -/
  | plus : SignText false ['+']
  /-- A minus sign. -/
  | minus : SignText true ['-']

/-- The number with this absolute value, negative or not. -/
def signed (negative : Bool) (n : Nat) : Int := if negative then -n else n

/-- The text is a numeral that denotes the number: white space, a sign or none, at most `maxDigits`
digits and white space. The last digit counts ones. -/
inductive Numeral : Int → List Char → Prop where
  | intro {u sign body v : List Char} {negative : Bool} {ds : List Nat} : IsWhiteSpace u →
      SignText negative sign → DigitsText ds body → IsWhiteSpace v → ds.length ≤ maxDigits →
      Numeral (signed negative (Nat.ofDigits 10 ds.reverse)) (u ++ (sign ++ (body ++ v)))

/-! ### Blanks and digits -/

variable {c : Char} {cs v body : List Char} {ds : List Nat} {n : Int}

/-- Around a numeral stands white space. -/
theorem isNumeralBlank_iff : isNumeralBlank c = true ↔ c.toNat ∈ whiteSpaceCodes := by
  have hblank : ∀ m ∈ blankCodes, (!(0x1c ≤ m && m ≤ 0x1f)) = true ↔ m ∈ whiteSpaceCodes := by
    decide
  have hcodes : ∀ m ∈ whiteSpaceCodes, m ∈ blankCodes := by decide
  rw [isNumeralBlank, Bool.and_eq_true, isBlank, List.contains_iff_mem]
  constructor
  · rintro ⟨h, hcontrol⟩
    exact (hblank _ h).mp hcontrol
  · intro h
    exact ⟨hcodes _ h, (hblank _ (hcodes _ h)).mpr h⟩

theorem isWhiteSpace_iff : IsWhiteSpace cs ↔ cs.all isNumeralBlank = true := by
  simp only [IsWhiteSpace, List.all_eq_true, isNumeralBlank_iff]

theorem decimalValue?_of_whiteSpace (h : c.toNat ∈ whiteSpaceCodes) : decimalValue? c = none := by
  have hnone : ∀ m ∈ whiteSpaceCodes, decimalValue? (Char.ofNat m) = none := by decide
  rw [← Char.ofNat_toNat c]
  exact hnone _ h

/-- A character that is a digit is neither white space nor one of the marks in a numeral. -/
theorem of_decimalValue? {d : Nat} (h : decimalValue? c = some d) :
    isNumeralBlank c = false ∧ c ≠ '_' ∧ c ≠ '+' ∧ c ≠ '-' := by
  have hne {e : Char} (he : decimalValue? e = none) : c ≠ e := by
    rintro rfl
    cases h.symm.trans he
  refine ⟨?_, hne (by decide), hne (by decide), hne (by decide)⟩
  by_contra hb
  have hnone := decimalValue?_of_whiteSpace (isNumeralBlank_iff.mp (by simpa using hb))
  cases h.symm.trans hnone

theorem DigitsText.exists_cons (h : DigitsText ds cs) :
    ∃ c d rest, cs = c :: rest ∧ decimalValue? c = some d := by
  cases h with
  | single hc => exact ⟨_, _, _, rfl, hc⟩
  | digit hc => exact ⟨_, _, _, rfl, hc⟩
  | underscore hc => exact ⟨_, _, _, rfl, hc⟩

/-! ### Reading -/

/-- No digit and no underscore follows. -/
def EndsDigits (v : List Char) : Prop := ∀ c ∈ v.head?, decimalValue? c = none ∧ c ≠ '_'

theorem IsWhiteSpace.endsDigits (h : IsWhiteSpace v) : EndsDigits v := by
  intro c hc
  have hwhite := h c (List.mem_of_mem_head? hc)
  refine ⟨decimalValue?_of_whiteSpace hwhite, ?_⟩
  rintro rfl
  exact absurd hwhite (by decide)

/-- What is read are digits, and what is left does not begin with a further one. -/
theorem of_readDigits_eq_some {rest : List Char} (h : readDigits cs = some (ds, rest)) :
    ∃ body, cs = body ++ rest ∧ DigitsText ds body := by
  induction cs using readDigits.induct generalizing ds with
  | case1 => cases h
  | case2 c cs hc => rw [readDigits.eq_2 c cs hc] at h; cases h
  | case3 c d hc =>
    rw [readDigits.eq_3 c d hc] at h
    cases h
    exact ⟨[c], rfl, .single hc⟩
  | case4 c d cs hc ih =>
    rw [readDigits.eq_4 c d cs hc] at h
    obtain ⟨⟨es, left⟩, hread, heq⟩ := Option.map_eq_some_iff.mp h
    cases heq
    obtain ⟨body, rfl, hbody⟩ := ih hread
    exact ⟨c :: '_' :: body, rfl, .underscore hc hbody⟩
  | case5 c d e cs hne hc he ih =>
    rw [readDigits.eq_5 c d e cs hne hc, if_pos he] at h
    obtain ⟨⟨es, left⟩, hread, heq⟩ := Option.map_eq_some_iff.mp h
    cases heq
    obtain ⟨body, hcs, hbody⟩ := ih hread
    exact ⟨c :: body, by rw [hcs, List.cons_append], .digit hc hbody⟩
  | case6 c d e cs hne hc he =>
    rw [readDigits.eq_5 c d e cs hne hc, if_neg he] at h
    cases h
    exact ⟨[c], rfl, .single hc⟩

/-- Digits are read as far as they go. -/
theorem DigitsText.readDigits_append (h : DigitsText ds body) (hv : EndsDigits v) :
    readDigits (body ++ v) = some (ds, v) := by
  induction h with
  | @single c d hc =>
    cases v with
    | nil => exact readDigits.eq_3 c d hc
    | cons e v =>
      obtain ⟨hnone, hne⟩ := hv e rfl
      rw [List.singleton_append, readDigits.eq_5 c d e v (fun h => hne h) hc, if_neg (by simp [hnone])]
  | @digit c d ds cs hc hcs ih =>
    obtain ⟨e, m, rest, rfl, he⟩ := hcs.exists_cons
    have hsome : (decimalValue? e).isSome = true := by simp [he]
    rw [List.cons_append] at ih
    rw [List.cons_append, List.cons_append,
      readDigits.eq_5 c d e (rest ++ v) (fun h => (of_decimalValue? he).2.1 h) hc, if_pos hsome, ih]
    rfl
  | @underscore c d ds cs hc hcs ih =>
    rw [List.cons_append, List.cons_append, readDigits.eq_4 c d _ hc, ih]
    rfl

/-- The number that digits stand for is that of positional notation. -/
theorem ofDigits_eq (ds : List Nat) : ofDigits ds = Nat.ofDigits 10 ds.reverse := by
  rw [Nat.ofDigits_eq_foldr, List.foldr_reverse, ofDigits]
  simp only [Nat.cast_id, Nat.add_comm]

/-- A sign is read in front of a digit. -/
theorem SignText.readSign_append {negative : Bool} {sign : List Char} (h : SignText negative sign)
    {d : Nat} (hc : decimalValue? c = some d) (cs : List Char) :
    readSign (sign ++ c :: cs) = (negative, c :: cs) := by
  cases h with
  | none =>
    obtain ⟨-, -, hplus, hminus⟩ := of_decimalValue? hc
    unfold readSign
    split <;> simp_all
  | plus => rfl
  | minus => rfl

theorem of_readSign {negative : Bool} {rest : List Char} (h : readSign cs = (negative, rest)) :
    ∃ sign, SignText negative sign ∧ cs = sign ++ rest := by
  unfold readSign at h
  split at h
  · cases h; exact ⟨['-'], .minus, rfl⟩
  · cases h; exact ⟨['+'], .plus, rfl⟩
  · cases h; exact ⟨[], .none, rfl⟩

/-- A text is read as a number if and only if it is a numeral that denotes the number. -/
theorem readInteger_eq_ok_iff : readInteger cs = .ok n ↔ Numeral n cs := by
  constructor
  · intro h
    obtain ⟨⟨negative, body⟩, hsign⟩ : ∃ p, readSign (cs.dropWhile isNumeralBlank) = p := ⟨_, rfl⟩
    rw [readInteger, hsign] at h
    cases hdigits : readDigits body with
    | none => simp only [hdigits] at h; cases h
    | some p =>
      obtain ⟨ds, rest⟩ := p
      simp only [hdigits] at h
      split at h
      · cases h
      · next hlength =>
        split at h
        · next hrest =>
          obtain ⟨sign, hs, hsplit⟩ := of_readSign hsign
          obtain ⟨digits, rfl, hd⟩ := of_readDigits_eq_some hdigits
          have hu : IsWhiteSpace (cs.takeWhile isNumeralBlank) :=
            isWhiteSpace_iff.mpr List.all_takeWhile
          have hnum := Numeral.intro hu hs hd (isWhiteSpace_iff.mpr hrest) (Nat.le_of_not_lt hlength)
          rw [← hsplit, List.takeWhile_append_dropWhile, ← ofDigits_eq] at hnum
          cases h
          exact hnum
        · cases h
  · rintro @⟨u, sign, body, v, negative, ds, hu, hs, hd, hv, hlength⟩
    obtain ⟨c, d, rest, hbody, hc⟩ := hd.exists_cons
    have hdrop : (u ++ (sign ++ (body ++ v))).dropWhile isNumeralBlank = sign ++ (body ++ v) := by
      rw [List.dropWhile_append_of_pos (List.all_eq_true.mp (isWhiteSpace_iff.mp hu)), hbody]
      cases hs with
      | none => exact List.dropWhile_cons_of_neg (by simp [(of_decimalValue? hc).1])
      | plus => rfl
      | minus => rfl
    have hsign : readSign (sign ++ (body ++ v)) = (negative, body ++ v) := by
      rw [hbody]
      exact hs.readSign_append hc _
    rw [readInteger, hdrop, hsign]
    simp only [hd.readDigits_append hv.endsDigits]
    rw [if_neg (Nat.not_lt_of_le hlength), if_pos (isWhiteSpace_iff.mp hv), ofDigits_eq]
    rfl

end Text

/-! ### Settings -/

/-- The fault tells whoever runs the tests that a setting makes no sense. -/
def Fault.IsUsage : Fault → Prop
  | widthSettingMalformed .. | widthSettingNotPositive _ => True
  | _ => False

/-- The fault was raised for a value that is of the right type and makes no sense. -/
def Fault.HasValueCause (fault : Fault) : Prop :=
  ∃ c, fault.cause? = some (.complaint c) ∧ c.kind = .value

namespace Settings

open Text (Numeral)

/-- What is kept for a setting, which is a text or is not set. -/
def given : Option String → Entry
  | none => { value := .null }
  | some t => { value := .str t }

/-- The width setting asks for this width. -/
inductive Asks : Option String → Int → Prop where
  /-- Without a setting, the width is 120. -/
  | unset : Asks none 120
  /-- An empty setting is as good as none. -/
  | empty : Asks (some "") 120
  /-- Any other one is to be a numeral. -/
  | numeral {t : String} {n : Int} : t ≠ "" → Numeral n t.toList → Asks (some t) n

variable {width : Option String} {n : Int}

/-- The text of the width setting is read as the width that it asks for. -/
theorem readInteger_widthText_iff :
    Text.readInteger (widthText (given width)).toList = .ok n ↔ Asks width n := by
  have hdefault : Text.readInteger defaultWidth.toList = .ok 120 := by rfl
  rcases width with _ | t
  · have htext : widthText (given none) = defaultWidth := rfl
    rw [htext, hdefault]
    constructor
    · rintro ⟨⟩
      exact .unset
    · rintro ⟨⟩
      rfl
  · by_cases ht : t = ""
    · subst ht
      have htext : widthText (given (some "")) = defaultWidth := rfl
      rw [htext, hdefault]
      constructor
      · rintro ⟨⟩
        exact .empty
      · rintro (_ | _ | ⟨hne, -⟩)
        · rfl
        · exact absurd rfl hne
    · have htext : widthText (given (some t)) = t := by simp [widthText, given, Value.isTruthy, ht, Value.text]
      rw [htext, Text.readInteger_eq_ok_iff]
      refine ⟨.numeral ht, ?_⟩
      rintro (_ | _ | ⟨-, h⟩)
      · exact absurd rfl ht
      · exact h

theorem ofWidth_of_pos (h : 0 < n) (color showReason : Bool) :
    ∃ config : ReportConfig, ReportConfig.ofWidth n color showReason = some config ∧
      (config.width : Int) = n ∧ config.color = color ∧ config.showReason = showReason := by
  have hpos : 0 < n.toNat := by omega
  exact ⟨⟨n.toNat, color, showReason, hpos⟩, dif_pos hpos, Int.toNat_of_nonneg (by omega), rfl, rfl⟩

/-- A positive width passes the check that configurations make themselves. -/
theorem create_of_ofWidth {color showReason : Bool} {config : ReportConfig}
    (h : ReportConfig.ofWidth n color showReason = some config) :
    Terminal.create (.int n) color showReason = .ok (.columns config) := by
  have hpos : 0 < n := by
    unfold ReportConfig.ofWidth at h
    split at h
    · omega
    · cases h
  simp only [Terminal.create, ReportConfig.checkWidth, hpos, if_true, Value.toInt?, Option.bind_some, h]
  rfl

variable (color : Entry)

/-- A setting that asks for a positive width makes the configuration of this width. -/
theorem reportConfig_of_asks (h : Asks width n) (hn : 0 < n) :
    ∃ config : ReportConfig, reportConfig (given width) color = .ok config ∧
      (config.width : Int) = n ∧ config.color = color.value.isTruthy ∧ config.showReason = true ∧
      Terminal.create (.int n) color.value.isTruthy true = .ok (.columns config) := by
  obtain ⟨config, hconfig, hwidth, hcolor, hreason⟩ := ofWidth_of_pos hn color.value.isTruthy true
  refine ⟨config, ?_, hwidth, hcolor, hreason, create_of_ofWidth hconfig⟩
  simp only [reportConfig, readInteger_widthText_iff.mpr h, hconfig]

/-- A setting that asks for no positive width but for another one is refused for that. -/
theorem reportConfig_of_asks_nonpos (h : Asks width n) (hn : n ≤ 0) :
    reportConfig (given width) color = .error (.widthSettingNotPositive n) := by
  have hnone : ReportConfig.ofWidth n color.value.isTruthy true = none := dif_neg (by omega)
  simp only [reportConfig, readInteger_widthText_iff.mpr h, hnone]

/-- A setting that asks for no width is refused for that. -/
theorem reportConfig_of_not_asks (h : ∀ n, ¬Asks width n) :
    ∃ text why, reportConfig (given width) color = .error (.widthSettingMalformed text why) := by
  cases hread : Text.readInteger (widthText (given width)).toList with
  | ok n => exact absurd (readInteger_widthText_iff.mp hread) (h n)
  | error why => exact ⟨widthText (given width), why, by simp only [reportConfig, hread]⟩

/-- A setting asks for one width at most. -/
theorem Asks.unique {m : Int} (hn : Asks width n) (hm : Asks width m) : n = m :=
  answer_unique (readInteger_widthText_iff.mpr hn) (readInteger_widthText_iff.mpr hm)

/-- **What the settings make.** They make a configuration, as wide as the width setting asks for, with
colour where the other setting counts as true, and one that configurations themselves find nothing wrong
with, or they are refused as an error of usage. They make one of a given width if and only if the
setting asks for that width and it is positive. An error was raised for a text that is no numeral
exactly where the setting asks for no width. -/
theorem reportConfig_answers (width : Option String) (color : Entry) :
    ((∃ config : ReportConfig, reportConfig (given width) color = .ok config ∧ 1 ≤ config.width ∧
        config.color = color.value.isTruthy ∧
        Terminal.create (.int config.width) color.value.isTruthy true = .ok (.columns config)) ∨
      ∃ fault, reportConfig (given width) color = .error fault ∧ fault.IsUsage ∧
        (fault.HasValueCause ↔ ∀ n, ¬Asks width n)) ∧
    ∀ n : Int, (∃ config : ReportConfig, reportConfig (given width) color = .ok config ∧
      config.width = n) ↔ Asks width n ∧ 1 ≤ n := by
  by_cases h : ∃ n, Asks width n
  · obtain ⟨m, hm⟩ := h
    by_cases hpos : 0 < m
    · obtain ⟨config, hconfig, hwidth, hcolor, -, hcreate⟩ := reportConfig_of_asks color hm hpos
      refine ⟨.inl ⟨config, hconfig, by omega, hcolor, hwidth ▸ hcreate⟩, fun n => ⟨?_, ?_⟩⟩
      · rintro ⟨config', hconfig', rfl⟩
        obtain rfl := answer_unique hconfig hconfig'
        exact ⟨hwidth ▸ hm, by omega⟩
      · rintro ⟨hn, -⟩
        exact ⟨config, hconfig, hwidth.trans (hm.unique hn)⟩
    · have herror := reportConfig_of_asks_nonpos color hm (by omega)
      refine ⟨.inr ⟨_, herror, trivial, ?_⟩, fun n => ⟨?_, ?_⟩⟩
      · refine iff_of_false ?_ fun hnone => hnone m hm
        rintro ⟨c, ⟨⟩, -⟩
      · rintro ⟨config, hconfig, -⟩
        cases herror.symm.trans hconfig
      · rintro ⟨hn, hone⟩
        obtain rfl := hm.unique hn
        omega
  · have hnone : ∀ n, ¬Asks width n := fun n hn => h ⟨n, hn⟩
    obtain ⟨text, why, herror⟩ := reportConfig_of_not_asks color hnone
    refine ⟨.inr ⟨_, herror, trivial, iff_of_true ⟨_, rfl, rfl⟩ hnone⟩, fun n => ⟨?_, ?_⟩⟩
    · rintro ⟨config, hconfig, -⟩
      cases herror.symm.trans hconfig
    · rintro ⟨hn, -⟩
      exact absurd hn (hnone n)

end Settings

end Conformance
