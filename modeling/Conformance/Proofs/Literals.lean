import Conformance.Proofs.Markup

/-!
# Texts that are shown as they are

Escaping is to have a text shown as it is. The text is, if and only if each backslash in front of a
bracket stands in front of a tag, no part between tags has a code of an emoji, and what stands behind
the text suits the backslashes at its end (`Markup.plain_render_eq_iff`). A text that keeps its
colons is shown with hardly more characters than it has (`Markup.of_count_plain_render`).
-/

namespace Conformance.Report.Markup

variable {c d : Char} {cs xs tail name closing : List Char} {n : Nat}

/-! ### Parts -/

/-- The parts that a text is cut into at its tags, each of which is a part of its own. The first
`skipped` characters belong to a tag that has been cut out already. -/
def partsFrom : (skipped : Nat) → List Char → List (List Char)
  | _, [] => [[]]
  | skipped + 1, _ :: cs => partsFrom skipped cs
  | 0, c :: cs =>
    match if c = '[' then tag? cs else none with
    | some name => [] :: bracketed name :: partsFrom (name.length + 1) cs
    | none => (partsFrom 0 cs).modifyHead (c :: ·)

/-- The parts that a text is cut into at its tags. -/
def parts (cs : List Char) : List (List Char) := partsFrom 0 cs

theorem partsFrom_eq_drop (skipped : Nat) (cs : List Char) :
    partsFrom skipped cs = parts (cs.drop skipped) := by
  induction skipped generalizing cs with
  | zero => rfl
  | succ skipped ih =>
    cases cs with
    | nil => rfl
    | cons c cs => exact ih cs

theorem parts_tag (h : IsName name) (cs : List Char) :
    parts (bracketed name ++ cs) = [] :: bracketed name :: parts cs := by
  rw [bracketed_append, parts, partsFrom, if_pos rfl, tag?_append h]
  dsimp only
  rw [partsFrom_eq_drop]
  simp

theorem parts_cons (h : c = '[' → tag? cs = none) :
    parts (c :: cs) = (parts cs).modifyHead (c :: ·) := by
  have hnone : (if c = '[' then tag? cs else none) = none := by
    split
    · next hc => exact h hc
    · rfl
  rw [parts, partsFrom, hnone]
  rfl

theorem parts_ne_nil (cs : List Char) : parts cs ≠ [] := by
  induction cs using tag_induction with
  | nil => simp [parts, partsFrom]
  | backslash cs ih => simpa [parts_cons] using ih
  | tag name cs h => simp [parts_tag h]
  | bracket cs h ih => simpa [parts_cons fun _ => h] using ih
  | char c cs _ hopen ih => simpa [parts_cons fun hc => absurd hc hopen] using ih

theorem parts_backslashes_append (n : Nat) (cs : List Char) :
    parts (backslashes n ++ cs) = (parts cs).modifyHead (backslashes n ++ ·) := by
  obtain ⟨p, ps, hp⟩ := List.exists_cons_of_ne_nil (parts_ne_nil cs)
  induction n with
  | zero => rw [backslashes_zero, List.nil_append, hp]; rfl
  | succ n ih =>
    have hcons : backslashes (n + 1) ++ cs = '\\' :: (backslashes n ++ cs) := rfl
    rw [hcons, parts_cons fun h => absurd h (by decide), ih, hp]
    rfl

/-- A backslash stands in front of a bracket only if this opens a tag. -/
def KeepsBackslashes (cs : List Char) : Prop := ∀ v, '\\' :: '[' :: v <:+ cs → (tag? v).isSome

theorem keepsBackslashes_cons (c : Char) (cs : List Char) : KeepsBackslashes (c :: cs) ↔
    (c = '\\' → ∀ v, cs = '[' :: v → (tag? v).isSome) ∧ KeepsBackslashes cs := by
  simp only [KeepsBackslashes, List.suffix_cons_iff, List.cons.injEq]
  constructor
  · exact fun h => ⟨fun hc v hv => h v (.inl ⟨hc.symm, hv.symm⟩), fun v hv => h v (.inr hv)⟩
  · rintro ⟨hhead, htail⟩ v (⟨hc, hv⟩ | hv)
    · exact hhead hc.symm v hv.symm
    · exact htail v hv

theorem keepsBackslashes_cons_of_ne (hc : c ≠ '\\') :
    KeepsBackslashes (c :: cs) ↔ KeepsBackslashes cs := by
  rw [keepsBackslashes_cons]
  exact and_iff_right fun h => absurd h hc

theorem keepsBackslashes_append_cons (hxs : '[' ∉ xs) (hd : d ≠ '[') :
    KeepsBackslashes (xs ++ d :: cs) ↔ KeepsBackslashes (d :: cs) := by
  induction xs with
  | nil => rfl
  | cons x xs ih =>
    simp only [List.mem_cons, not_or] at hxs
    rw [List.cons_append, keepsBackslashes_cons, ih hxs.2]
    refine and_iff_right fun _ v hv => ?_
    cases xs with
    | nil => exact absurd (List.cons.inj hv).1 hd
    | cons y ys => exact absurd ((List.cons.inj hv).1 ▸ List.mem_cons_self) hxs.2

theorem not_mem_backslashes (n : Nat) : '[' ∉ backslashes n :=
  fun h => absurd (eq_of_mem_backslashes h) (by decide)

theorem keepsBackslashes_backslashes (n : Nat) : KeepsBackslashes (backslashes n) := by
  intro v hv
  exact absurd (hv.subset (by simp)) (not_mem_backslashes n)

theorem keepsBackslashes_open (n : Nat) (cs : List Char) :
    KeepsBackslashes (backslashes n ++ '[' :: cs) ↔
      (n ≠ 0 → (tag? cs).isSome) ∧ KeepsBackslashes cs := by
  cases n with
  | zero => simp [keepsBackslashes_cons_of_ne (by decide : '[' ≠ '\\')]
  | succ n =>
    rw [backslashes_succ_append, keepsBackslashes_append_cons (not_mem_backslashes n) (by decide),
      keepsBackslashes_cons, keepsBackslashes_cons_of_ne (by decide)]
    simp

theorem keepsBackslashes_tag (h : IsName name) (n : Nat) (cs : List Char) :
    KeepsBackslashes (backslashes n ++ (bracketed name ++ cs)) ↔ KeepsBackslashes cs := by
  rw [bracketed_append, keepsBackslashes_open, tag?_append h,
    keepsBackslashes_append_cons h.not_opening (by decide), keepsBackslashes_cons_of_ne (by decide)]
  exact and_iff_right fun _ => rfl

theorem keepsBackslashes_char (hslash : c ≠ '\\') (hopen : c ≠ '[') (n : Nat) (cs : List Char) :
    KeepsBackslashes (backslashes n ++ c :: cs) ↔ KeepsBackslashes cs := by
  rw [keepsBackslashes_append_cons (not_mem_backslashes n) hopen, keepsBackslashes_cons_of_ne hslash]

/-- A text that is shown as it is but for emoji loses no backslash in it, and the backslashes at its
end are shown. -/
theorem of_flatten_read_eq (ht : OpensFirst tail)
    (h : (texts (read tail n cs)).flatten = backslashes n ++ cs) :
    KeepsBackslashes (backslashes n ++ cs) ∧
      (texts (pieces 0 (backslashesAtEnd (backslashes n ++ cs)) tail)).flatten =
        backslashes (backslashesAtEnd (backslashes n ++ cs)) := by
  induction cs using tag_induction generalizing n with
  | nil =>
    rw [read_nil, List.append_nil] at h
    rw [List.append_nil, backslashesAtEnd_backslashes]
    exact ⟨keepsBackslashes_backslashes n, h⟩
  | backslash cs ih =>
    rw [read_backslash, ← backslashes_succ_append] at h
    rw [← backslashes_succ_append]
    exact ih h
  | tag name cs hname ih =>
    rw [read_tag hname, texts, texts, List.flatten_cons, List.flatten_cons] at h
    rw [keepsBackslashes_tag hname, backslashesAtEnd_append_bracketed]
    exact ih (List.append_cancel_left (List.append_cancel_left h))
  | bracket cs hnone ih =>
    rw [read_bracket ht hnone, read, flatten_texts_putBefore, ← read] at h
    rw [keepsBackslashes_open, backslashesAtEnd_append_cons (by decide)]
    cases n with
    | zero =>
      obtain ⟨hkeeps, hend⟩ := ih (List.cons.inj h).2
      exact ⟨⟨fun hn => absurd rfl hn, hkeeps⟩, hend⟩
    | succ n =>
      rw [backslashes_succ_append, Nat.add_sub_cancel, List.append_assoc] at h
      exact absurd (List.cons.inj (List.append_cancel_left h)).1 (by decide)
  | char c cs hslash hopen ih =>
    rw [read_char hslash hopen, read, flatten_texts_putBefore, ← read, List.append_assoc] at h
    rw [keepsBackslashes_char hslash hopen, backslashesAtEnd_append_cons hslash]
    exact ih (List.cons.inj (List.append_cancel_left h)).2

/-- What is shown of a text is as long as the text, or shorter, with what its end is shown as. -/
theorem length_texts_read_le (ht : OpensFirst tail) (n : Nat) (cs : List Char) :
    (texts (read tail n cs)).flatten.length + backslashesAtEnd (backslashes n ++ cs) ≤
      n + cs.length +
        (texts (pieces 0 (backslashesAtEnd (backslashes n ++ cs)) tail)).flatten.length := by
  have hlen (n : Nat) : (backslashes n).length = n := List.length_replicate
  induction cs using tag_induction generalizing n with
  | nil =>
    rw [read_nil, List.append_nil, backslashesAtEnd_backslashes, List.length_nil]
    omega
  | backslash cs ih =>
    have hrest := ih (n + 1)
    rw [backslashes_succ_append] at hrest
    rw [read_backslash, List.length_cons]
    omega
  | tag name cs h ih =>
    have hrest := ih 0
    rw [read_tag h, backslashesAtEnd_append_bracketed]
    simp only [texts, List.flatten_cons, List.length_append, hlen, backslashes_zero,
      List.nil_append] at hrest ⊢
    omega
  | bracket cs h ih =>
    have hrest := ih 0
    rw [read_bracket ht h, read, flatten_texts_putBefore, ← read,
      backslashesAtEnd_append_cons (by decide)]
    simp only [List.length_append, List.length_cons, List.length_nil, hlen, backslashes_zero,
      List.nil_append] at hrest ⊢
    omega
  | char c cs hslash hopen ih =>
    have hrest := ih 0
    rw [read_char hslash hopen, read, flatten_texts_putBefore, ← read,
      backslashesAtEnd_append_cons hslash]
    simp only [List.length_append, List.length_cons, List.length_nil, hlen, backslashes_zero,
      List.nil_append] at hrest ⊢
    omega

/-- If no backslash is lost, the texts that are read are the parts of the text. -/
theorem texts_read (ht : OpensFirst tail) (hkeeps : KeepsBackslashes (backslashes n ++ cs))
    {behind : List (List Char)}
    (hend : texts (pieces 0 (backslashesAtEnd (backslashes n ++ cs)) tail) =
      backslashes (backslashesAtEnd (backslashes n ++ cs)) :: behind) :
    texts (read tail n cs) = parts (backslashes n ++ cs) ++ behind := by
  induction cs using tag_induction generalizing n with
  | nil =>
    rw [List.append_nil, backslashesAtEnd_backslashes] at hend
    rw [read_nil, hend, parts_backslashes_append]
    simp [parts, partsFrom]
  | backslash cs ih =>
    rw [← backslashes_succ_append] at hkeeps hend ⊢
    exact ih hkeeps hend
  | tag name cs hname ih =>
    rw [keepsBackslashes_tag hname] at hkeeps
    rw [backslashesAtEnd_append_bracketed] at hend
    have hrest : texts (read tail 0 cs) = parts cs ++ behind := ih hkeeps hend
    rw [read_tag hname, texts, texts, hrest, parts_backslashes_append, parts_tag hname]
    simp
  | bracket cs hnone ih =>
    rw [keepsBackslashes_open, hnone] at hkeeps
    rw [backslashesAtEnd_append_cons (by decide)] at hend
    obtain rfl : n = 0 := by simpa using hkeeps.1
    have hrest : texts (read tail 0 cs) = parts cs ++ behind := ih hkeeps.2 hend
    obtain ⟨p, ps, hp⟩ := List.exists_cons_of_ne_nil (parts_ne_nil cs)
    rw [read_bracket ht hnone, read, texts_putBefore, ← read, hrest, parts_backslashes_append,
      parts_cons fun _ => hnone, hp]
    rfl
  | char c cs hslash hopen ih =>
    rw [keepsBackslashes_char hslash hopen] at hkeeps
    rw [backslashesAtEnd_append_cons hslash] at hend
    have hrest : texts (read tail 0 cs) = parts cs ++ behind := ih hkeeps hend
    obtain ⟨p, ps, hp⟩ := List.exists_cons_of_ne_nil (parts_ne_nil cs)
    rw [read_char hslash hopen, read, texts_putBefore, ← read, hrest, parts_backslashes_append,
      parts_cons fun hc => absurd hc hopen, hp]
    simp

theorem flatten_parts (cs : List Char) : (parts cs).flatten = cs := by
  have hput {c : Char} {cs : List Char} (ih : (parts cs).flatten = cs) :
      ((parts cs).modifyHead (c :: ·)).flatten = c :: cs := by
    obtain ⟨p, ps, hp⟩ := List.exists_cons_of_ne_nil (parts_ne_nil cs)
    rw [hp] at ih ⊢
    exact congrArg (c :: ·) ih
  induction cs using tag_induction with
  | nil => rfl
  | backslash cs ih => rw [parts_cons fun h => absurd h (by decide), hput ih]
  | tag name cs h ih => rw [parts_tag h, List.flatten_cons, List.flatten_cons, ih, List.nil_append]
  | bracket cs h ih => rw [parts_cons fun _ => h, hput ih]
  | char c cs _ hopen ih => rw [parts_cons fun h => absurd h hopen, hput ih]

/-- A text in which nothing has a meaning, apart from backslashes at its end. -/
structure IsLiteral (cs : List Char) : Prop where
  /-- A backslash stands in front of a bracket only if this opens a tag. -/
  backslashes : KeepsBackslashes cs
  /-- No part of the text has a code of an emoji. -/
  codes : ∀ part ∈ parts cs, Emoji.replace part = part

/-- A text is shown as it is if and only if nothing has a meaning in it and the backslashes at its
end are shown as they are. -/
theorem flatMap_read_eq_iff (ht : OpensFirst tail) (hcolon : ':' ∉ tail)
    (hend : (texts (pieces 0 (backslashesAtEnd cs) tail)).flatten = backslashes (backslashesAtEnd cs) →
      ∃ n, texts (pieces 0 (backslashesAtEnd cs) tail) =
        backslashes (backslashesAtEnd cs) :: List.replicate n []) :
    (texts (read tail 0 cs)).flatMap Emoji.replace = cs ↔ IsLiteral cs ∧
      (texts (pieces 0 (backslashesAtEnd cs) tail)).flatten = backslashes (backslashesAtEnd cs) := by
  constructor
  · intro h
    have hcount := count_read ht (by decide) hcolon 0 cs
    have hcodes := Emoji.replace_eq_of_count_flatMap
      ((congrArg (List.count ':') h).trans hcount.symm)
    rw [Emoji.flatMap_replace_eq_flatten hcodes] at h
    obtain ⟨hkeeps, hstop⟩ := of_flatten_read_eq (n := 0) ht h
    obtain ⟨n, hbehind⟩ := hend hstop
    rw [texts_read (n := 0) ht hkeeps hbehind] at hcodes
    exact ⟨⟨hkeeps, fun p hp => hcodes p (List.mem_append_left _ hp)⟩, hstop⟩
  · rintro ⟨⟨hkeeps, hcodes⟩, hstop⟩
    obtain ⟨n, hbehind⟩ := hend hstop
    have htexts : texts (read tail 0 cs) = parts cs ++ List.replicate n [] :=
      texts_read (n := 0) ht hkeeps hbehind
    rw [htexts, List.flatMap_append, Emoji.flatMap_replace_eq_flatten hcodes, flatten_parts,
      List.flatMap_replicate]
    simp

/-! ### In front of a closing tag -/

/-- The number of backslashes at the end of a text is such that they are shown. -/
def ShowsBackslashes (closing : List Char) (n : Nat) : Prop := if closing = [] then n ≠ 1 else n ≤ 1

theorem texts_pieces_closing (h : ∀ c ∈ name, c.isLower = true) (k : Nat) :
    texts (pieces 0 k (bracketed ('/' :: name))) = backslashes (k / 2) ::
      (if k % 2 = 1 then [bracketed ('/' :: name), []] else [[]]) := by
  have htag := pieces_tag (isName_of_isLower h) k []
  rw [List.append_nil] at htag
  rw [htag, texts]
  split <;> rfl

/-- What the end of a text is read as, if the text ends in `k` backslashes. -/
theorem texts_pieces_behind (h : IsClosing closing) (cs : List Char) {k : Nat}
    (hk : backslashesAtEnd cs = k) :
    (ShowsBackslashes closing k ∧
      ∃ n, texts (pieces 0 k (behind closing cs)) = backslashes k :: List.replicate n []) ∨
    (¬ShowsBackslashes closing k ∧
      (texts (pieces 0 k (behind closing cs))).flatten ≠ backslashes k ∧
      (texts (pieces 0 k (behind closing cs))).flatten.length + 2 ≤ k + max 3 closing.length) := by
  have hlength (n : Nat) : (backslashes n).length = n := List.length_replicate
  have hne {n m : Nat} (hnm : n ≠ m) : backslashes n ≠ backslashes m :=
    fun heq => hnm (by rw [← hlength n, heq, hlength])
  rw [behind, hk]
  by_cases hone : k = 1
  · subst hone
    rw [if_pos rfl, pieces_backslashes_append]
    cases h with
    | nothing => exact .inr ⟨by simp [ShowsBackslashes], by decide, Nat.le_refl 4⟩
    | tag hname =>
      refine .inl ⟨by simp [ShowsBackslashes, bracketed], 1, ?_⟩
      rw [texts_pieces_closing hname]
      rfl
  · rw [if_neg hone, backslashes_zero, List.nil_append]
    cases h with
    | nothing => exact .inl ⟨by simp [ShowsBackslashes, hone], 0, rfl⟩
    | tag hname =>
      rw [texts_pieces_closing hname]
      by_cases hodd : k % 2 = 1
      · rw [if_pos hodd]
        refine .inr ⟨by simp [ShowsBackslashes, bracketed]; omega, fun heq => ?_, ?_⟩
        · have hmem : '[' ∈ backslashes k := by rw [← heq]; simp [bracketed]
          exact not_mem_backslashes k hmem
        · simp only [List.flatten_cons, List.flatten_nil, List.length_append, hlength, List.length_nil]
          omega
      · rw [if_neg hodd]
        by_cases hzero : k = 0
        · subst hzero
          exact .inl ⟨by simp [ShowsBackslashes], 1, rfl⟩
        · refine .inr ⟨by simp [ShowsBackslashes, bracketed]; omega, ?_, ?_⟩
          · simpa using hne (by omega)
          · simp only [List.flatten_cons, List.flatten_nil, List.length_append, hlength,
              List.length_nil]
            omega

/-- An escaped text in front of a closing tag, or of nothing, is shown as it is if and only if
nothing in it has a meaning and the backslashes at its end are shown. -/
theorem plain_render_eq_iff (h : IsClosing closing) (hcs : ∀ c ∈ cs, isDropped c = false) :
    plain (render (escape cs ++ closing)) = cs ↔
      IsLiteral cs ∧ ShowsBackslashes closing (backslashesAtEnd cs) := by
  have hcolon := not_mem_behind (c := ':') h (by decide) (by decide) cs
  rw [plain_render_eq_flatMap h hcs]
  rcases texts_pieces_behind h cs rfl with ⟨hshows, hend⟩ | ⟨hshows, hne, -⟩
  · rw [flatMap_read_eq_iff (opensFirst_behind h cs) hcolon fun _ => hend]
    obtain ⟨n, hend⟩ := hend
    exact and_congr_right fun _ => iff_of_true (by simp [hend]) hshows
  · rw [flatMap_read_eq_iff (opensFirst_behind h cs) hcolon fun heq => absurd heq hne]
    exact and_congr_right fun _ => iff_of_false hne hshows

/-- A subject is shown as it is if nothing in it has a meaning and it does not end in a single
backslash. -/
theorem plain_render_escape_eq_iff (hcs : ∀ c ∈ cs, isDropped c = false) :
    plain (render (escape cs)) = cs ↔ IsLiteral cs ∧ backslashesAtEnd cs ≠ 1 := by
  have h := plain_render_eq_iff .nothing hcs
  rwa [List.append_nil] at h

/-- A text between tags is shown as it is if nothing in it has a meaning and it does not end in two
backslashes. -/
theorem plain_render_enclose_eq_iff {tag : String} (h : IsLetterTag tag)
    (hcs : ∀ c ∈ cs, isDropped c = false) :
    plain (render (enclose tag cs)) = cs ↔ IsLiteral cs ∧ backslashesAtEnd cs ≤ 1 := by
  rw [plain_render_enclose h]
  exact plain_render_eq_iff h.isClosing hcs

/-- A text without backslashes and colons has nothing with a meaning in it. -/
theorem isLiteral_of_not_mem (hslash : '\\' ∉ cs) (hcolon : ':' ∉ cs) : IsLiteral cs where
  backslashes v hv := absurd (hv.subset List.mem_cons_self) hslash
  codes part hpart := by
    have hnot : ':' ∉ part := fun hmem =>
      hcolon (flatten_parts cs ▸ List.mem_flatten_of_mem hpart hmem)
    have hle := Emoji.count_replace_le (c := ':') (by decide) part
    rw [List.count_eq_zero_of_not_mem hnot] at hle
    refine Emoji.replace_eq_of_count ?_
    rw [List.count_eq_zero_of_not_mem hnot]
    exact Nat.le_zero.mp hle

/-- What is shown of a text that keeps its colons: hardly more characters than the text has, none
of them new but for those of the tag. -/
theorem of_count_plain_render (h : IsClosing closing) (hcs : ∀ c ∈ cs, isDropped c = false)
    (hcount : (plain (render (escape cs ++ closing))).count ':' = cs.count ':') :
    (∀ c ∈ plain (render (escape cs ++ closing)), c = '\\' ∨ isClosingChar c = true ∨ c ∈ cs) ∧
    (∀ c, c ≠ '\\' → isClosingChar c = false →
      (plain (render (escape cs ++ closing))).count c = cs.count c) ∧
    (plain (render (escape cs ++ closing))).length + 2 ≤ cs.length + max 3 closing.length := by
  have ht := opensFirst_behind h cs
  have hcounts (c : Char) (hslash : c ≠ '\\') (hc : isClosingChar c = false) :
      (texts (read (behind closing cs) 0 cs)).flatten.count c = cs.count c :=
    count_read ht hslash (not_mem_behind h hslash hc cs) 0 cs
  rw [plain_render_eq_flatMap h hcs] at hcount ⊢
  rw [Emoji.flatMap_replace_eq_flatten (Emoji.replace_eq_of_count_flatMap
    (hcount.trans (hcounts ':' (by decide) (by decide)).symm))]
  refine ⟨fun c hc => ?_, hcounts, ?_⟩
  · by_contra hnot
    simp only [not_or, Bool.not_eq_true] at hnot
    have hzero := hcounts c hnot.1 hnot.2.1
    rw [List.count_eq_zero_of_not_mem hnot.2.2] at hzero
    exact List.count_eq_zero.mp hzero hc
  · have hlength : (texts (read (behind closing cs) 0 cs)).flatten.length + backslashesAtEnd cs ≤
        0 + cs.length +
          (texts (pieces 0 (backslashesAtEnd cs) (behind closing cs))).flatten.length :=
      length_texts_read_le ht 0 cs
    rcases texts_pieces_behind h cs rfl with ⟨-, n, hend⟩ | ⟨-, -, hend⟩
    · have hshown : (backslashes (backslashesAtEnd cs) :: List.replicate n []).flatten.length =
          backslashesAtEnd cs := by simp [backslashes]
      rw [hend, hshown] at hlength
      omega
    · omega

end Conformance.Report.Markup
