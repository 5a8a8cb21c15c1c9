import Conformance.Report.Emoji
import Mathlib.Data.List.TakeWhile

/-!
# What emoji are made of

Of the ASCII characters only digits and two others occur in signs (`Emoji.isSignText_sign?`). So
replacing codes by signs brings in no other one (`Emoji.count_replace_le`), and each code that is
replaced takes two colons away: a text that keeps its colons stays as it is
(`Emoji.replace_eq_of_count`).
-/

namespace Conformance.Report.Emoji

/-! ### Characters of signs -/

/-- A character that a sign can be made of. -/
def isSignChar (c : Char) : Bool := 0x7f < c.toNat || c.isDigit || c == '#' || c == '*'

/-- A text made of such characters. -/
def IsSignText (cs : List Char) : Prop := ∀ c ∈ cs, isSignChar c = true

instance (cs : List Char) : Decidable (IsSignText cs) :=
  List.decidableBAll (isSignChar · = true) cs

theorem isSignText_signs : ∀ e ∈ signs, IsSignText e.2 := by decide +kernel

theorem isSignText_tonedSigns : ∀ e ∈ tonedSigns, IsSignText e.2 := by decide +kernel

theorem isSignChar_tones : ∀ e ∈ tones, isSignChar e.2 = true := by decide +kernel

theorem isSignText_flags : ∀ e ∈ flags ++ namedFlags, IsSignText (flag e.2.1 e.2.2) := by
  decide +kernel

theorem isSignText_partFlags : ∀ e ∈ partFlags, IsSignText (partFlag e.2) := by decide +kernel

theorem isSignText_letters : IsSignText (letters.map regional) := by decide +kernel

theorem isSignText_tint {tone : Char} {cs : List Char} (ht : isSignChar tone = true)
    (hcs : IsSignText cs) : IsSignText (tint tone cs) := by
  cases cs with
  | nil => exact hcs
  | cons d cs =>
    simp only [IsSignText, List.mem_cons, forall_eq_or_imp] at hcs
    have htail : ∀ c ∈ (if cs.head? = some emojiForm then cs.tail else cs), isSignChar c = true := by
      split
      · exact fun c hc => hcs.2 c (List.mem_of_mem_tail hc)
      · exact hcs.2
    simp only [IsSignText, tint, List.mem_cons, forall_eq_or_imp]
    exact ⟨hcs.1, ht, htail⟩

/-- The signs of the table are made of such characters. -/
theorem isSignText_table {e : String × List Char} (he : e ∈ table) : IsSignText e.2 := by
  simp only [table, List.mem_append, List.mem_flatMap, List.mem_map] at he
  rcases he with (((((he | he) | ⟨s, hs, t, ht, rfl⟩) | ⟨f, hf, he⟩) | ⟨f, hf, rfl⟩) | ⟨p, hp, rfl⟩) |
    ⟨c, hc, he⟩
  · exact isSignText_signs e he
  · exact isSignText_tonedSigns e he
  · exact isSignText_tint (isSignChar_tones t ht) (isSignText_tonedSigns s hs)
  · have hflag := isSignText_flags f (List.mem_append_left _ hf)
    simp only [List.mem_cons, List.not_mem_nil, or_false] at he
    rcases he with rfl | rfl
    · exact hflag
    · exact hflag
  · exact isSignText_flags f (List.mem_append_right _ hf)
  · exact isSignText_partFlags p hp
  · simp only [List.mem_cons, List.not_mem_nil, or_false] at he
    rcases he with rfl | rfl
    · exact List.forall_mem_singleton.mpr (isSignText_letters _ (List.mem_map_of_mem hc))
    · exact List.forall_mem_singleton.mpr (isSignText_letters _ (List.mem_map_of_mem hc))

/-- What is shown in the place of a code is made of such characters. -/
theorem isSignText_sign? {name cs : List Char} (h : sign? name = some cs) : IsSignText cs := by
  have hforms : ∀ e ∈ forms, isSignChar e.2 = true := by decide
  have hform : IsSignText (splitForm name).2 := by
    rw [splitForm]
    split
    · next e form he =>
      exact List.forall_mem_singleton.mpr (hforms _ (List.mem_of_find?_eq_some he))
    · exact List.forall_mem_nil _
  obtain ⟨sign, hsign, rfl⟩ := Option.map_eq_some_iff.mp h
  obtain ⟨before, behind, htable, -⟩ := List.lookup_eq_some_iff.mp hsign
  have hmem : (String.ofList ((splitForm name).1.map toLower), sign) ∈ table := by
    rw [htable]
    exact List.mem_append_right _ List.mem_cons_self
  intro c hc
  rcases List.mem_append.mp hc with hc | hc
  · exact isSignText_table hmem c hc
  · exact hform c hc

/-! ### Codes -/

variable {c : Char} {cs name : List Char}

/-- The name of a code stands before the next colon. -/
theorem of_name? (h : name? cs = some name) :
    ':' ∉ name ∧ cs = name ++ ':' :: cs.drop (name.length + 1) := by
  rw [name?] at h
  split at h
  · next hnext =>
    obtain rfl := Option.some.inj h
    refine ⟨fun hmem => ?_, ?_⟩
    · simpa using List.mem_takeWhile_imp hmem
    · obtain ⟨rest, hrest⟩ := List.head?_eq_some_iff.mp (beq_iff_eq.mp hnext)
      have hcs := (List.prefix_iff_eq_append.mp (List.takeWhile_prefix _)).symm.trans
        (congrArg (cs.takeWhile _ ++ ·) hrest)
      rw [← List.drop_drop, hrest]
      exact hcs
  · cases h

theorem code_append (name cs : List Char) : code name ++ cs = ':' :: (name ++ ':' :: cs) := by
  simp [code]

theorem replaceFrom_eq_drop (n : Nat) (cs : List Char) :
    replaceFrom n cs = replace (cs.drop n) := by
  induction n generalizing cs with
  | zero => rfl
  | succ n ih =>
    cases cs with
    | nil => rfl
    | cons c cs => exact ih cs

@[simp] theorem replace_nil : replace [] = [] := rfl

theorem replace_cons_of_code (h : name? cs = some name) :
    replace (':' :: cs) =
      (sign? name).getD (code name) ++ replace (cs.drop (name.length + 1)) := by
  rw [replace, replaceFrom, if_pos rfl, h]
  exact congrArg _ (replaceFrom_eq_drop _ _)

theorem replace_cons_of_not_code (h : (if c = ':' then name? cs else none) = none) :
    replace (c :: cs) = c :: replace cs := by
  rw [replace, replaceFrom, h]
  rfl

/-- A property of texts holds if it holds of the empty one and is kept by a code and by a character
that begins none in front. -/
theorem code_induction {P : List Char → Prop} (nil : P [])
    (code : ∀ name cs, ':' ∉ name → name? (name ++ ':' :: cs) = some name → P cs →
      P (code name ++ cs))
    (char : ∀ c cs, (if c = ':' then name? cs else none) = none → P cs → P (c :: cs))
    (cs : List Char) : P cs := by
  induction hn : cs.length using Nat.strong_induction_on generalizing cs with
  | _ n ih =>
    cases cs with
    | nil => exact nil
    | cons c cs =>
      rw [List.length_cons] at hn
      cases hname : (if c = ':' then name? cs else none) with
      | none => exact char c cs hname (ih cs.length (by omega) cs rfl)
      | some name =>
        obtain ⟨rfl, hname⟩ : c = ':' ∧ name? cs = some name := by simpa using hname
        obtain ⟨hcolon, hcs⟩ := of_name? hname
        have hrest := ih (cs.drop (name.length + 1)).length (by rw [List.length_drop]; omega) _ rfl
        have h := code name _ hcolon (hcs ▸ hname) hrest
        rwa [code_append, ← hcs] at h

theorem replace_code_append (h : name? (name ++ ':' :: cs) = some name) :
    replace (code name ++ cs) = (sign? name).getD (code name) ++ replace cs := by
  rw [code_append, replace_cons_of_code h]
  simp

/-! ### Counting characters -/

theorem count_eq_zero_of_sign? {sign : List Char} (hc : isSignChar c = false)
    (h : sign? name = some sign) : sign.count c = 0 :=
  List.count_eq_zero_of_not_mem fun hmem =>
    Bool.false_ne_true (hc.symm.trans (isSignText_sign? h c hmem))

/-- Replacing codes brings in no characters but those of signs. -/
theorem count_replace_le (hc : isSignChar c = false) (cs : List Char) :
    (replace cs).count c ≤ cs.count c := by
  induction cs using code_induction with
  | nil => exact Nat.le_refl _
  | code name cs _ hname ih =>
    rw [replace_code_append hname, List.count_append, List.count_append]
    refine Nat.add_le_add ?_ ih
    cases hsign : sign? name with
    | none => exact Nat.le_refl _
    | some sign => exact Nat.le_trans (Nat.le_of_eq (count_eq_zero_of_sign? hc hsign)) (Nat.zero_le _)
  | char d cs hd ih =>
    rw [replace_cons_of_not_code hd, List.count_cons, List.count_cons]
    exact Nat.add_le_add_right ih _

/-- A text that keeps its colons when codes are replaced stays as it is. -/
theorem replace_eq_of_count (h : (replace cs).count ':' = cs.count ':') : replace cs = cs := by
  have hcolon : isSignChar ':' = false := by decide
  induction cs using code_induction with
  | nil => rfl
  | code name cs hnot hname ih =>
    have hle := count_replace_le hcolon cs
    have hcode : (code name).count ':' = 2 := by
      simp [code, List.count_append, List.count_eq_zero_of_not_mem hnot]
    rw [replace_code_append hname, List.count_append, List.count_append, hcode] at h
    rw [replace_code_append hname]
    cases hsign : sign? name with
    | none =>
      rw [hsign, Option.getD_none, hcode] at h
      rw [Option.getD_none, ih (by omega)]
    | some sign =>
      rw [hsign, Option.getD_some, count_eq_zero_of_sign? hcolon hsign] at h
      omega
  | char d cs hd ih =>
    rw [replace_cons_of_not_code hd, List.count_cons, List.count_cons] at h
    rw [replace_cons_of_not_code hd, ih (by omega)]

theorem count_flatMap_replace_le (hc : isSignChar c = false) (ps : List (List Char)) :
    (ps.flatMap replace).count c ≤ ps.flatten.count c := by
  induction ps with
  | nil => exact Nat.le_refl _
  | cons p ps ih =>
    rw [List.flatMap_cons, List.flatten_cons, List.count_append, List.count_append]
    exact Nat.add_le_add (count_replace_le hc p) ih

/-- Texts that keep their colons when codes are replaced stay as they are. -/
theorem replace_eq_of_count_flatMap {ps : List (List Char)}
    (h : (ps.flatMap replace).count ':' = ps.flatten.count ':') : ∀ p ∈ ps, replace p = p := by
  have hcolon : isSignChar ':' = false := by decide
  induction ps with
  | nil => simp
  | cons p ps ih =>
    rw [List.flatMap_cons, List.flatten_cons, List.count_append, List.count_append] at h
    have hp := count_replace_le hcolon p
    have hps := count_flatMap_replace_le hcolon ps
    simp only [List.mem_cons, forall_eq_or_imp]
    exact ⟨replace_eq_of_count (by omega), ih (by omega)⟩

theorem flatMap_replace_eq_flatten {ps : List (List Char)} (h : ∀ p ∈ ps, replace p = p) :
    ps.flatMap replace = ps.flatten := by
  rw [List.flatMap_def, List.map_congr_left h, List.map_id']

end Conformance.Report.Emoji
