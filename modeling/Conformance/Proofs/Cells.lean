import Conformance.Text.Grapheme

/-!
# Cutting a text to its cells

A text that is cut to a number of columns occupies no more of them (`Text.cells_cut_le`), unless it
begins with two joiners: there the joiner that is measured as hidden by the first is itself taken to
hide what follows when graphemes are made.

How many columns a text occupies depends on the text in front of it, which may end in a joiner or in a
character that a selector widens. `Text.NoWider` compares texts wherever they stand, so that it holds of
longer texts if it holds of parts of them, and `Text.StandsApart` tells texts that occupy no more
columns one behind the other than each by itself.
-/

namespace Conformance.Text

variable {c d : Char} {cs ds xs ys : List Char} {last : Option Char}

/-! ### Measuring -/

theorem isConnector_of_cellWidth (h : cellWidth c ≠ 0) : isConnector c = false := by
  have hne {e : Char} (he : cellWidth e = 0) : c ≠ e := fun heq => h (heq ▸ he)
  simp [isConnector, hne (by decide : cellWidth joiner = 0),
    hne (by decide : cellWidth emojiSelector = 0)]

/-- A joiner hides what follows it. -/
theorem cellsAfter_joiner (last : Option Char) (cs : List Char) :
    cellsAfter last (joiner :: cs) = cellsAfter last cs.tail := by
  cases cs <;> rfl

theorem cellsAfter_selector (last : Option Char) (cs : List Char) :
    cellsAfter last (emojiSelector :: cs) = widening last + cellsAfter none cs := by
  have hne : emojiSelector ≠ joiner := by decide
  simp only [cellsAfter.eq_def last (emojiSelector :: cs), if_neg hne, if_true]

/-- Behind a character that takes a column the text in front of it makes no difference. -/
theorem cellsAfter_column (h : cellWidth c ≠ 0) (last : Option Char) (cs : List Char) :
    cellsAfter last (c :: cs) = cellWidth c + cellsAfter (some c) cs := by
  rw [cellsAfter_cons (isConnector_of_cellWidth h), if_neg h]

/-- A property of texts holds if it holds of the empty one, if a joiner keeps it in front of a text that
has it apart from its first character, and if all other characters keep it. -/
theorem connector_induction {P : List Char → Prop} (nil : P [])
    (joined : ∀ cs, P cs.tail → P (joiner :: cs)) (selected : ∀ cs, P cs → P (emojiSelector :: cs))
    (shown : ∀ c cs, isConnector c = false → P cs → P (c :: cs)) (cs : List Char) : P cs := by
  induction hn : cs.length using Nat.strongRecOn generalizing cs with
  | _ n ih =>
    cases cs with
    | nil => exact nil
    | cons c cs =>
      rw [List.length_cons] at hn
      by_cases hjoiner : c = joiner
      · exact hjoiner ▸ joined cs (ih cs.tail.length (by rw [List.length_tail]; omega) _ rfl)
      have hrest : P cs := ih cs.length (by omega) cs rfl
      by_cases hselector : c = emojiSelector
      · exact hselector ▸ selected cs hrest
      · exact shown c cs (by simp [isConnector, hjoiner, hselector]) hrest

/-- All that a text in front makes a difference to is how much a selector widens it. -/
theorem cellsAfter_bounds (last : Option Char) (cs : List Char) :
    cellsAfter none cs ≤ cellsAfter last cs ∧
      cellsAfter last cs ≤ cellsAfter none cs + widening last := by
  induction cs using connector_induction with
  | nil => exact ⟨Nat.le_refl _, Nat.zero_le _⟩
  | joined cs ih => rwa [cellsAfter_joiner, cellsAfter_joiner]
  | selected cs ih =>
    rw [cellsAfter_selector, cellsAfter_selector, widening_none]
    omega
  | shown c cs hc ih =>
    rw [cellsAfter_cons hc, cellsAfter_cons hc]
    split <;> omega

theorem cellsAfter_le_succ (last : Option Char) (cs : List Char) :
    cellsAfter last cs ≤ cellsAfter none cs + 1 :=
  Nat.le_trans (cellsAfter_bounds last cs).2 (Nat.add_le_add_left (widening_le_one last) _)

/-- A character in front takes no columns away, unless it is a joiner. -/
theorem cells_le_cons (h : d ≠ joiner) (cs : List Char) : cells cs ≤ cells (d :: cs) := by
  by_cases hselector : d = emojiSelector
  · rw [hselector, cells, cells, cellsAfter_selector]
    exact Nat.le_add_left _ _
  · rw [cells, cells, cellsAfter_cons (by simp [isConnector, h, hselector])]
    exact Nat.le_trans (cellsAfter_bounds _ _).1 (Nat.le_add_left _ _)

/-! ### Texts that occupy no more columns -/

/-- Wherever the texts stand, the first occupies at most as many columns as the second, also behind a
joiner that hides the beginning of both. -/
def NoWider (xs ys : List Char) : Prop :=
  ∀ last, cellsAfter last xs ≤ cellsAfter last ys ∧ cellsAfter last xs.tail ≤ cellsAfter last ys.tail

namespace NoWider

theorem refl (xs : List Char) : NoWider xs xs := fun _ => ⟨Nat.le_refl _, Nat.le_refl _⟩

theorem trans {zs : List Char} (h : NoWider xs ys) (h' : NoWider ys zs) : NoWider xs zs := fun last =>
  ⟨Nat.le_trans (h last).1 (h' last).1, Nat.le_trans (h last).2 (h' last).2⟩

theorem cells_le (h : NoWider xs ys) : cells xs ≤ cells ys := (h none).1

theorem nil (ys : List Char) : NoWider [] ys := fun _ => ⟨Nat.zero_le _, Nat.zero_le _⟩

theorem cons (h : NoWider xs ys) (c : Char) : NoWider (c :: xs) (c :: ys) := by
  refine fun last => ⟨?_, (h last).1⟩
  by_cases hjoiner : c = joiner
  · rw [hjoiner, cellsAfter_joiner, cellsAfter_joiner]
    exact (h last).2
  by_cases hselector : c = emojiSelector
  · rw [hselector, cellsAfter_selector, cellsAfter_selector]
    exact Nat.add_le_add_left (h none).1 _
  · have hc : isConnector c = false := by simp [isConnector, hjoiner, hselector]
    rw [cellsAfter_cons hc, cellsAfter_cons hc]
    exact Nat.add_le_add_left (h _).1 _

theorem append (h : NoWider xs ys) (ps : List Char) : NoWider (ps ++ xs) (ps ++ ys) := by
  induction ps with
  | nil => exact h
  | cons p ps ih => exact ih.cons p

/-- A blank occupies no more columns than a character that takes one, and what follows it. -/
theorem blank (h : cellWidth c ≠ 0) (cs : List Char) : NoWider [' '] (c :: cs) := by
  have hblank : ∀ last, cellsAfter last [' '] = 1 := fun _ => rfl
  refine fun last => ⟨?_, Nat.zero_le _⟩
  rw [hblank, cellsAfter_column h]
  omega

end NoWider

/-- A text that has been cut short: a beginning of the text, or one with a blank in place of a character
that takes columns. -/
inductive CutShort : List Char → List Char → Prop where
  /-- A beginning. -/
  | start (xs ys : List Char) : CutShort xs (xs ++ ys)
  /-- A beginning and a blank. -/
  | blank (xs : List Char) {c : Char} (ys : List Char) :
      cellWidth c ≠ 0 → CutShort (xs ++ [' ']) (xs ++ c :: ys)

namespace CutShort

theorem refl (xs : List Char) : CutShort xs xs := by
  simpa using CutShort.start xs []

theorem take (n : Nat) (cs : List Char) : CutShort (cs.take n) cs := by
  simpa using CutShort.start (cs.take n) (cs.drop n)

theorem append_left (h : CutShort xs cs) (ps : List Char) : CutShort (ps ++ xs) (ps ++ cs) := by
  cases h with
  | start _ ys => simpa using CutShort.start (ps ++ xs) ys
  | blank xs ys hc => simpa using CutShort.blank (ps ++ xs) ys hc

theorem append_right (h : CutShort xs cs) (ds : List Char) : CutShort xs (cs ++ ds) := by
  cases h with
  | start _ ys => simpa using CutShort.start xs (ys ++ ds)
  | blank xs ys hc => simpa using CutShort.blank xs (ys ++ ds) hc

theorem length_le (h : CutShort xs cs) : xs.length ≤ cs.length := by
  cases h with
  | start _ ys => simp
  | blank xs ys => simp

theorem noWider (h : CutShort xs cs) : NoWider xs cs := by
  cases h with
  | start _ ys => simpa using (NoWider.nil ys).append xs
  | blank xs ys hc => exact (NoWider.blank hc ys).append xs

theorem mem (h : CutShort xs cs) (hc : c ∈ xs) : c = ' ' ∨ c ∈ cs := by
  cases h with
  | start _ ys => exact .inr (List.mem_append_left _ hc)
  | blank xs ys =>
    rcases List.mem_append.mp hc with hc | hc
    · exact .inr (List.mem_append_left _ hc)
    · exact .inl (List.mem_singleton.mp hc)

theorem columns (h : CutShort xs cs) (hcs : ∀ c ∈ cs, cellWidth c ≠ 0) : ∀ c ∈ xs, cellWidth c ≠ 0 := by
  intro c hc
  rcases h.mem hc with rfl | hmem
  · decide
  · exact hcs c hmem

theorem eq_blank_or_head (h : CutShort (d :: ds) cs) : d = ' ' ∨ cs.head? = some d := by
  generalize hxs : d :: ds = xs at h
  cases h with
  | start _ ys => exact .inr (by rw [← hxs]; rfl)
  | blank xs ys =>
    cases xs with
    | nil => exact .inl (List.cons.inj hxs).1
    | cons x xs => exact .inr (congrArg some (List.cons.inj hxs).1.symm)

end CutShort

/-! ### Texts one behind the other -/

/-- The second text begins as if nothing were in front of it: with a character that takes a column, or
behind a blank that no joiner hides. -/
inductive StandsApart : List Char → List Char → Prop where
  /-- It begins with a character that takes a column. -/
  | column (xs : List Char) {c : Char} (cs : List Char) : cellWidth c ≠ 0 → StandsApart xs (c :: cs)
  /-- It stands behind a blank. -/
  | blank {xs : List Char} (ys : List Char) : xs.getLast? ≠ some joiner → StandsApart (xs ++ [' ']) ys

theorem cellsAfter_append_column_le (hc : cellWidth c ≠ 0) (last : Option Char) (xs cs : List Char) :
    cellsAfter last (xs ++ c :: cs) ≤ cellsAfter last xs + cells (c :: cs) := by
  have hcells : cells (c :: cs) = cellWidth c + cellsAfter (some c) cs := cellsAfter_column hc none cs
  induction xs using connector_induction generalizing last with
  | nil =>
    rw [List.nil_append, cellsAfter_column hc, hcells]
    omega
  | joined xs ih =>
    rw [List.cons_append, cellsAfter_joiner, cellsAfter_joiner]
    cases xs with
    | nil =>
      have hhidden := cellsAfter_le_succ last cs
      have hshown := (cellsAfter_bounds (some c) cs).1
      rw [List.nil_append, List.tail_cons, hcells]
      omega
    | cons x xs => exact ih last
  | selected xs ih =>
    rw [List.cons_append, cellsAfter_selector, cellsAfter_selector]
    have hrest := ih none
    omega
  | shown d xs hd ih =>
    rw [List.cons_append, cellsAfter_cons hd, cellsAfter_cons hd]
    have hrest := ih (if cellWidth d = 0 then last else some d)
    omega

/-- Behind a blank that no joiner hides a text is measured by itself. -/
theorem cellsAfter_append_blank (hlast : xs.getLast? ≠ some joiner) (last : Option Char) (ys : List Char) :
    cellsAfter last (xs ++ ' ' :: ys) = cellsAfter last (xs ++ [' ']) + cells ys := by
  have hrest {d : Char} {ds : List Char} (h : (d :: ds).getLast? ≠ some joiner) :
      ds.getLast? ≠ some joiner := by
    cases ds with
    | nil => simp
    | cons e ds => exact h
  induction xs using connector_induction generalizing last with
  | nil =>
    have hblank (zs : List Char) : cellsAfter last (' ' :: zs) = 1 + cellsAfter (some ' ') zs :=
      cellsAfter_column (by decide) last zs
    have hbounds := cellsAfter_bounds (some ' ') ys
    have hwidening : widening (some ' ') = 0 := by decide
    have hnil : cellsAfter (some ' ') [] = 0 := rfl
    rw [List.nil_append, List.nil_append, hblank, hblank, cells]
    omega
  | joined xs ih =>
    cases xs with
    | nil => exact absurd rfl hlast
    | cons x xs =>
      rw [List.cons_append, List.cons_append (a := joiner), cellsAfter_joiner, cellsAfter_joiner]
      exact ih (hrest (hrest hlast)) last
  | selected xs ih =>
    rw [List.cons_append, List.cons_append, cellsAfter_selector, cellsAfter_selector, ih (hrest hlast),
      Nat.add_assoc]
  | shown d xs hd ih =>
    rw [List.cons_append, List.cons_append, cellsAfter_cons hd, cellsAfter_cons hd, ih (hrest hlast),
      Nat.add_assoc]

/-- A text that stands apart adds at most its own columns. -/
theorem cells_append_le (h : StandsApart xs ys) : cells (xs ++ ys) ≤ cells xs + cells ys := by
  cases h with
  | column xs cs hc => exact cellsAfter_append_column_le hc none xs cs
  | @blank xs ys hlast =>
    rw [List.append_assoc, List.singleton_append]
    exact Nat.le_of_eq (cellsAfter_append_blank hlast none ys)

theorem cells_append_le_of_columns (h : ∀ c ∈ ys, cellWidth c ≠ 0) (xs : List Char) :
    cells (xs ++ ys) ≤ cells xs + cells ys := by
  cases ys with
  | nil => simp
  | cons c cs => exact cells_append_le (.column xs cs (h c List.mem_cons_self))

theorem cells_append_blanks_le (xs : List Char) (n : Nat) :
    cells (xs ++ List.replicate n ' ') ≤ cells xs + n := by
  have hblanks : ∀ c ∈ List.replicate n ' ', cellWidth c ≠ 0 := by
    intro c hc
    rw [List.eq_of_mem_replicate hc]
    decide
  have h := cells_append_le_of_columns hblanks xs
  rwa [cells_replicate_blank] at h

/-- A character behind a text adds at most its own columns, if it takes any. -/
theorem cells_concat_le (h : cellWidth c ≠ 0) (xs : List Char) :
    cells (xs ++ [c]) ≤ cells xs + cellWidth c := by
  have hc : cells [c] = cellWidth c := cellsAfter_column h none []
  exact hc ▸ cells_append_le (.column xs [] h)

/-! ### Cutting -/

variable {w : Nat}

/-- What is cut off behind the beginning `g` of a grapheme: all of it, or a half of that grapheme and
all behind it, or so much that the rest fits. -/
theorem takeColumns_graphemesAfter (w : Nat) (g : Grapheme) (last : Option Char) (cs : List Char) :
    takeColumns w (graphemesAfter g last cs) = [] ∨
    (takeColumns w (graphemesAfter g last cs) = [' '] ∧ 1 ≤ w ∧ w < g.width + widening last) ∨
    ∃ t, takeColumns w (graphemesAfter g last cs) = g.chars ++ t ∧ CutShort t cs ∧
      g.width + cellsAfter last t ≤ w := by
  fun_induction graphemesAfter g last cs generalizing w with
  | case1 last g =>
    by_cases hw : w = 0
    · exact .inl (by simp [takeColumns, hw])
    · by_cases hfits : g.width ≤ w
      · exact .inr (.inr ⟨[], by simp [takeColumns, hw, hfits], .refl [], hfits⟩)
      · exact .inr (.inl ⟨by simp [takeColumns, hw, hfits], by omega, by omega⟩)
  | case2 g last =>
    by_cases hw : w = 0
    · exact .inl (by simp [takeColumns, hw])
    · by_cases hfits : g.width ≤ w
      · exact .inr (.inr ⟨[joiner], by simp [takeColumns, hw, hfits], .refl _, hfits⟩)
      · exact .inr (.inl ⟨by simp [takeColumns, hw, hfits], by omega, by omega⟩)
  | case3 g last d rest ih =>
    rcases ih w with h | h | ⟨t, ht, hcut, hfits⟩
    · exact .inl h
    · exact .inr (.inl h)
    · exact .inr (.inr ⟨joiner :: d :: t, by simpa using ht, hcut.append_left [joiner, d], hfits⟩)
  | case4 g last cs hne ih =>
    rcases ih w with h | ⟨h, hw, hlt⟩ | ⟨t, ht, hcut, hfits⟩
    · exact .inl h
    · exact .inr (.inl ⟨h, hw, hlt⟩)
    · refine .inr (.inr ⟨emojiSelector :: t, by simpa using ht, hcut.append_left [emojiSelector], ?_⟩)
      rw [cellsAfter_selector, ← Nat.add_assoc]
      exact hfits
  | case5 g last c cs hjoiner hselector hc ih =>
    rcases ih w with h | h | ⟨t, ht, hcut, hfits⟩
    · exact .inl h
    · exact .inr (.inl h)
    · refine .inr (.inr ⟨c :: t, by simpa using ht, hcut.append_left [c], ?_⟩)
      rwa [cellsAfter_cons (by simp [isConnector, hjoiner, hselector]), if_pos hc, hc, Nat.zero_add]
  | case6 g last c cs hjoiner hselector hc ih =>
    rw [takeColumns]
    by_cases hw : w = 0
    · exact .inl (if_pos hw)
    rw [if_neg hw]
    by_cases hfits : g.width ≤ w
    · rw [if_pos hfits]
      refine .inr (.inr ?_)
      rcases ih (w - g.width) with h | ⟨h, hone, -⟩ | ⟨t, ht, hcut, hrest⟩
      · exact ⟨[], by rw [h], .start [] _, hfits⟩
      · refine ⟨[' '], by rw [h], .blank [] cs hc, ?_⟩
        have hblank : cellsAfter last [' '] = 1 := rfl
        omega
      · refine ⟨c :: t, by rw [ht]; rfl, hcut.append_left [c], ?_⟩
        rw [cellsAfter_column hc]
        dsimp only at hrest
        omega
    · exact .inr (.inl ⟨if_neg hfits, by omega, by omega⟩)

/-- The first character of a text begins a grapheme whatever it is. -/
theorem takeColumns_graphemes_cons (w : Nat) (c : Char) (cs : List Char) :
    takeColumns w (graphemes (c :: cs)) = [] ∨
    (takeColumns w (graphemes (c :: cs)) = [' '] ∧ 1 ≤ w ∧ cellWidth c ≠ 0) ∨
    ∃ t, takeColumns w (graphemes (c :: cs)) = c :: t ∧ CutShort t cs ∧
      cellWidth c + cellsAfter (if cellWidth c = 0 then none else some c) t ≤ w := by
  rcases takeColumns_graphemesAfter w ⟨[c], cellWidth c⟩ (if cellWidth c = 0 then none else some c) cs
    with h | ⟨h, hw, hlt⟩ | h
  · exact .inl h
  · refine .inr (.inl ⟨h, hw, fun hc => ?_⟩)
    rw [if_pos hc, widening_none] at hlt
    dsimp only at hlt
    omega
  · exact .inr (.inr h)

theorem cutShort_cut (w : Nat) (cs : List Char) : CutShort (cut w cs) cs := by
  unfold cut
  split
  · exact .start [] cs
  split
  · exact .refl cs
  cases cs with
  | nil => exact .start [] []
  | cons c cs =>
    rcases takeColumns_graphemes_cons w c cs with h | ⟨h, -, hc⟩ | ⟨t, h, hcut, -⟩
    · exact h ▸ .start [] _
    · exact h ▸ .blank [] cs hc
    · exact h ▸ hcut.append_left [c]

/-- A text that is cut to some columns occupies no more, unless it begins with two joiners. -/
theorem cells_cut_le (h : ¬[joiner, joiner] <+: cs) (w : Nat) : cells (cut w cs) ≤ w := by
  unfold cut
  split
  · exact Nat.zero_le _
  split
  · assumption
  cases cs with
  | nil => exact Nat.zero_le _
  | cons c cs =>
    rcases takeColumns_graphemes_cons w c cs with ht | ⟨ht, hw, -⟩ | ⟨t, ht, hcut, hfits⟩
    · exact ht ▸ Nat.zero_le _
    · exact ht ▸ hw
    rw [ht]
    by_cases hjoiner : c = joiner
    · -- What the joiner hides does not count here, but it does for graphemes.
      subst hjoiner
      rw [if_pos (by decide)] at hfits
      refine Nat.le_trans ?_ (Nat.le_trans (Nat.le_add_left _ _) hfits)
      rw [cells, cellsAfter_joiner]
      cases t with
      | nil => exact Nat.le_refl _
      | cons d t =>
        refine cells_le_cons (fun hd => ?_) t
        subst hd
        rcases hcut.eq_blank_or_head with hblank | hhead
        · exact absurd hblank (by decide)
        · obtain ⟨ds, rfl⟩ := List.head?_eq_some_iff.mp hhead
          exact h ⟨ds, rfl⟩
    · by_cases hselector : c = emojiSelector
      · subst hselector
        rw [if_pos (by decide)] at hfits
        rw [cells, cellsAfter_selector, widening_none]
        exact hfits
      · rw [cells, cellsAfter_cons (by simp [isConnector, hjoiner, hselector])]
        exact hfits

end Conformance.Text
