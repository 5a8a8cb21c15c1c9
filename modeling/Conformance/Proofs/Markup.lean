import Conformance.Proofs.Emoji
import Conformance.Report.Markup
import Mathlib.Data.List.Infix
import Mathlib.Data.List.TakeWhile

/-!
# Reading escaped texts

How a text that has been escaped is read as marked-up text again, case by case: its tags become
texts of their own (`Markup.read_tag`), one backslash in front of a bracket that opens no tag is lost
(`Markup.read_bracket`), and all else is kept (`Markup.read_char`). What stands behind the text makes
a difference only to the backslashes at its end (`Markup.read_nil`). So a character occurs in what is
shown as often as in the text, unless it is a backslash or belongs to the code of an emoji
(`Markup.count_read`, `Markup.count_plain_render_le`).
-/

namespace Conformance.Report.Markup

variable {c d : Char} {cs xs ys rest tail name : List Char} {n m : Nat}

/-! ### Tags -/

/-- What may stand between the brackets of a tag. -/
structure IsName (name : List Char) : Prop where
  /-- It begins as a tag does. -/
  starts : name.head?.any isTagStart = true
  /-- No bracket is opened in it. -/
  not_opening : '[' ∉ name
  /-- No bracket is closed in it. -/
  not_closing : ']' ∉ name

theorem tag?_append (h : IsName name) (rest : List Char) : tag? (name ++ ']' :: rest) = some name := by
  cases name with
  | nil => exact absurd h.starts (by simp)
  | cons c body =>
    have hstart : isTagStart c = true := by simpa using h.starts
    have hbody : (body ++ ']' :: rest).takeWhile (fun d => d != ']' && d != '[') = body := by
      rw [List.takeWhile_append_of_pos]
      · simp
      · intro d hd
        have h1 : d ≠ ']' := fun h' => h.not_closing (List.mem_cons_of_mem _ (h' ▸ hd))
        have h2 : d ≠ '[' := fun h' => h.not_opening (List.mem_cons_of_mem _ (h' ▸ hd))
        simp [h1, h2]
    simp [tag?, hbody, hstart]

theorem of_tag? (h : tag? cs = some name) : IsName name ∧ ∃ rest, cs = name ++ ']' :: rest := by
  cases cs with
  | nil => cases h
  | cons c cs =>
    simp only [tag?] at h
    split at h
    · next hnext =>
      obtain ⟨hstart, hnext⟩ := Bool.and_eq_true_iff.mp hnext
      obtain rfl := Option.some.inj h
      obtain ⟨rest, hrest⟩ := List.head?_eq_some_iff.mp (beq_iff_eq.mp hnext)
      have hbracket {d : Char} (hd : isTagStart d = false) (hp : (d != ']' && d != '[') = false) :
          d ∉ c :: cs.takeWhile fun d => d != ']' && d != '[' := by
        rintro (- | ⟨-, hmem⟩)
        · simp [hd] at hstart
        · have hd := List.mem_takeWhile_imp (p := fun d => d != ']' && d != '[') hmem
          exact Bool.false_ne_true (hp.symm.trans hd)
      refine ⟨⟨by simpa using hstart, hbracket (by decide) (by decide),
        hbracket (by decide) (by decide)⟩, rest, ?_⟩
      have hcs := (List.prefix_iff_eq_append.mp (List.takeWhile_prefix _)).symm.trans
        (congrArg (cs.takeWhile _ ++ ·) hrest)
      exact congrArg (c :: ·) hcs
    · cases h

theorem bracketed_append (name cs : List Char) : bracketed name ++ cs = '[' :: (name ++ ']' :: cs) := by
  simp [bracketed]

/-- A property of texts holds if it holds of the empty one and is kept by a backslash, a tag, a
bracket that opens no tag and any other character in front. -/
theorem tag_induction {P : List Char → Prop} (nil : P [])
    (backslash : ∀ cs, P cs → P ('\\' :: cs))
    (tag : ∀ name cs, IsName name → P cs → P (bracketed name ++ cs))
    (bracket : ∀ cs, tag? cs = none → P cs → P ('[' :: cs))
    (char : ∀ c cs, c ≠ '\\' → c ≠ '[' → P cs → P (c :: cs))
    (cs : List Char) : P cs := by
  induction hn : cs.length using Nat.strong_induction_on generalizing cs with
  | _ n ih =>
    cases cs with
    | nil => exact nil
    | cons c cs =>
      rw [List.length_cons] at hn
      have hrest : P cs := ih cs.length (by omega) cs rfl
      by_cases hslash : c = '\\'
      · exact hslash ▸ backslash cs hrest
      by_cases hopen : c = '['
      · subst hopen
        cases htag : tag? cs with
        | none => exact bracket cs htag hrest
        | some name =>
          obtain ⟨hname, rest, rfl⟩ := of_tag? htag
          rw [List.length_append, List.length_cons] at hn
          rw [← bracketed_append]
          exact tag name rest hname (ih rest.length (by omega) rest rfl)
      · exact char c cs hslash hopen hrest

/-! ### Backslashes -/

theorem eq_of_mem_backslashes (h : c ∈ backslashes n) : c = '\\' := List.eq_of_mem_replicate h

theorem backslashes_add (n m : Nat) : backslashes (n + m) = backslashes n ++ backslashes m :=
  (List.replicate_append_replicate ..).symm

theorem backslashes_succ_append (n : Nat) (cs : List Char) :
    backslashes (n + 1) ++ cs = backslashes n ++ '\\' :: cs := by
  rw [backslashes_add, List.append_assoc]
  rfl

@[simp] theorem backslashes_zero : backslashes 0 = [] := rfl

theorem count_backslashes (hc : c ≠ '\\') (n : Nat) : (backslashes n).count c = 0 :=
  List.count_eq_zero_of_not_mem fun h => hc (eq_of_mem_backslashes h)

/-- The number of backslashes at the end of a text. -/
def backslashesAtEnd (cs : List Char) : Nat := (cs.reverse.takeWhile (· == '\\')).length

@[simp] theorem backslashesAtEnd_backslashes (n : Nat) : backslashesAtEnd (backslashes n) = n := by
  simp [backslashesAtEnd, backslashes]

theorem backslashesAtEnd_append_cons (hd : d ≠ '\\') (xs cs : List Char) :
    backslashesAtEnd (xs ++ d :: cs) = backslashesAtEnd cs := by
  have hstop (ys : List Char) :
      (ys ++ d :: xs.reverse).takeWhile (· == '\\') = ys.takeWhile (· == '\\') := by
    induction ys with
    | nil => simp [hd]
    | cons y ys ih => simp only [List.cons_append, List.takeWhile_cons, ih]
  rw [backslashesAtEnd, List.reverse_append, List.reverse_cons, List.append_assoc,
    List.singleton_append, hstop, backslashesAtEnd]

theorem backslashesAtEnd_append_bracketed (xs name cs : List Char) :
    backslashesAtEnd (xs ++ (bracketed name ++ cs)) = backslashesAtEnd cs := by
  have hcut : xs ++ (bracketed name ++ cs) = (xs ++ '[' :: name) ++ ']' :: cs := by simp [bracketed]
  rw [hcut, backslashesAtEnd_append_cons (by decide)]

theorem endsWithBackslash_iff (cs : List Char) :
    endsWithBackslash cs = true ↔ backslashesAtEnd cs = 1 := by
  rw [endsWithBackslash, List.isSuffixOf, List.isSuffixOf, backslashesAtEnd]
  cases cs.reverse with
  | nil => simp
  | cons c cs =>
    cases cs with
    | nil => by_cases hc : c = '\\' <;> simp [List.isPrefixOf, hc, @eq_comm _ '\\']
    | cons d cs =>
      by_cases hc : c = '\\' <;> by_cases hd : d = '\\' <;>
        simp [List.isPrefixOf, hc, hd, @eq_comm _ '\\']

/-! ### Escaping -/

theorem escapeTags_backslash (n : Nat) (cs : List Char) :
    escapeTags n ('\\' :: cs) = escapeTags (n + 1) cs := rfl

theorem escapeTags_bracket (h : tag? cs = none) (n : Nat) :
    escapeTags n ('[' :: cs) = backslashes n ++ '[' :: escapeTags 0 cs := by
  rw [escapeTags, if_neg (by decide), if_neg (by simp [h])]

theorem escapeTags_char (hslash : c ≠ '\\') (hopen : c ≠ '[') (n : Nat) (cs : List Char) :
    escapeTags n (c :: cs) = backslashes n ++ c :: escapeTags 0 cs := by
  rw [escapeTags, if_neg hslash, if_neg (by simp [hopen])]

/-- Escaping leaves a text without opening brackets as it is. -/
theorem escapeTags_append_cons (hxs : '[' ∉ xs) (hslash : d ≠ '\\') (hopen : d ≠ '[') (n : Nat)
    (cs : List Char) :
    escapeTags n (xs ++ d :: cs) = backslashes n ++ xs ++ d :: escapeTags 0 cs := by
  induction xs generalizing n with
  | nil => simp [escapeTags_char hslash hopen]
  | cons x xs ih =>
    simp only [List.mem_cons, not_or] at hxs
    by_cases hx : x = '\\'
    · rw [hx, List.cons_append, escapeTags_backslash, ih hxs.2, backslashes_succ_append]
    · rw [List.cons_append, escapeTags_char hx (Ne.symm hxs.1), ih hxs.2]
      simp

theorem escapeTags_tag (h : IsName name) (n : Nat) (cs : List Char) :
    escapeTags n (bracketed name ++ cs) =
      backslashes (2 * n + 1) ++ (bracketed name ++ escapeTags 0 cs) := by
  rw [bracketed_append, escapeTags, if_neg (by decide), if_pos ⟨rfl, by simp [tag?_append h]⟩,
    escapeTags_append_cons h.not_opening (by decide) (by decide), bracketed_append]
  simp

theorem backslashesAtEnd_escapeTags (n : Nat) (cs : List Char) :
    backslashesAtEnd (escapeTags n cs) = backslashesAtEnd (backslashes n ++ cs) := by
  induction cs using tag_induction generalizing n with
  | nil => simp [escapeTags]
  | backslash cs ih => rw [escapeTags_backslash, ih, backslashes_succ_append]
  | tag name cs h ih =>
    rw [escapeTags_tag h, backslashesAtEnd_append_bracketed, ih, backslashesAtEnd_append_bracketed,
      backslashes_zero, List.nil_append]
  | bracket cs h ih =>
    rw [escapeTags_bracket h, backslashesAtEnd_append_cons (by decide), ih,
      backslashesAtEnd_append_cons (by decide), backslashes_zero, List.nil_append]
  | char c cs hslash hopen ih =>
    rw [escapeTags_char hslash hopen, backslashesAtEnd_append_cons hslash, ih,
      backslashesAtEnd_append_cons hslash, backslashes_zero, List.nil_append]

/-! ### Reading -/

theorem pieces_eq_drop (skipped n : Nat) (cs : List Char) :
    pieces skipped n cs = pieces 0 n (cs.drop skipped) := by
  induction skipped generalizing cs with
  | zero => rfl
  | succ skipped ih =>
    cases cs with
    | nil => rw [List.drop_nil, pieces, pieces]
    | cons c cs => exact ih cs

theorem pieces_nil (n : Nat) : pieces 0 n [] = [.text (backslashes n)] := rfl

theorem pieces_backslashes_append (n m : Nat) (cs : List Char) :
    pieces 0 n (backslashes m ++ cs) = pieces 0 (n + m) cs := by
  induction m generalizing n with
  | zero => rfl
  | succ m ih =>
    have hcons : backslashes (m + 1) ++ cs = '\\' :: (backslashes m ++ cs) := rfl
    rw [hcons, pieces, if_pos rfl, ih, Nat.add_right_comm, Nat.add_assoc]

theorem pieces_tag (h : IsName name) (n : Nat) (cs : List Char) :
    pieces 0 n (bracketed name ++ cs) = .text (backslashes (n / 2)) ::
      (if n % 2 = 1 then .text (bracketed name) else tagPiece name) :: pieces 0 0 cs := by
  rw [bracketed_append, pieces, if_neg (by decide), if_pos rfl, tag?_append h]
  dsimp only
  rw [pieces_eq_drop]
  simp

theorem pieces_bracket (h : tag? cs = none) (n : Nat) :
    pieces 0 n ('[' :: cs) = putBefore (backslashes (n - 1) ++ ['[']) (pieces 0 0 cs) := by
  rw [pieces, if_neg (by decide), if_pos rfl, h]

theorem pieces_char (hslash : c ≠ '\\') (hopen : c ≠ '[') (n : Nat) (cs : List Char) :
    pieces 0 n (c :: cs) = putBefore (backslashes n ++ [c]) (pieces 0 0 cs) := by
  rw [pieces, if_neg hslash, if_neg hopen]

/-- The texts among pieces. -/
def texts : List Piece → List (List Char)
  | [] => []
  | .text cs :: ps => cs :: texts ps
  | _ :: ps => texts ps

theorem texts_tagPiece_cons (name : List Char) (ps : List Piece) :
    texts (tagPiece name :: ps) = texts ps := by
  rw [tagPiece.eq_def]
  split <;> rfl

/-- A text is read as a text and pieces behind it. -/
theorem pieces_eq_text_cons (n : Nat) (cs : List Char) : ∃ ds ps, pieces 0 n cs = .text ds :: ps := by
  have hput (xs : List Char) (ps : List Piece) : ∃ ds qs, putBefore xs ps = .text ds :: qs := by
    rw [putBefore.eq_def]
    split
    · exact ⟨_, _, rfl⟩
    · exact ⟨_, _, rfl⟩
  induction cs using tag_induction generalizing n with
  | nil => exact ⟨_, _, rfl⟩
  | backslash cs ih => exact ih (n + 1)
  | tag name cs h => exact ⟨_, _, pieces_tag h n cs⟩
  | bracket cs h => exact pieces_bracket h n ▸ hput _ _
  | char c cs hslash hopen => exact pieces_char hslash hopen n cs ▸ hput _ _

theorem texts_putBefore (xs : List Char) (n : Nat) (cs : List Char) :
    texts (putBefore xs (pieces 0 n cs)) = (texts (pieces 0 n cs)).modifyHead (xs ++ ·) := by
  obtain ⟨ds, ps, h⟩ := pieces_eq_text_cons n cs
  rw [h]
  rfl

theorem flatten_texts_putBefore (xs : List Char) (n : Nat) (cs : List Char) :
    (texts (putBefore xs (pieces 0 n cs))).flatten = xs ++ (texts (pieces 0 n cs)).flatten := by
  obtain ⟨ds, ps, h⟩ := pieces_eq_text_cons n cs
  simp [h, putBefore, texts]

theorem map_fst_around (tags : List String) (ps : List Piece) :
    (around tags ps).map Prod.fst = (texts ps).flatMap Emoji.replace := by
  induction ps generalizing tags with
  | nil => rfl
  | cons p ps ih =>
    cases p with
    | text cs => simp [around, texts, ih, Function.comp_def]
    | opening name => exact ih _
    | closing name => exact ih _

/-- What marked-up text is shown as: its texts with signs in the place of their codes, without the
characters that are dropped. -/
theorem plain_render (cs : List Char) : plain (render cs) =
    ((texts (pieces 0 0 cs)).flatMap Emoji.replace).filter fun c => !isDropped c := by
  rw [← map_fst_around [], List.filter_map, plain, render, parse, List.map_map]
  rfl

/-- Reading brings in no characters but backslashes. -/
theorem count_pieces_le (hc : c ≠ '\\') (n : Nat) (cs : List Char) :
    (texts (pieces 0 n cs)).flatten.count c ≤ cs.count c := by
  induction cs using tag_induction generalizing n with
  | nil => simp [pieces_nil, texts, count_backslashes hc]
  | backslash cs ih =>
    rw [List.count_cons_of_ne (Ne.symm hc)]
    exact ih (n + 1)
  | tag name cs h ih =>
    rw [pieces_tag h, List.count_append]
    have hrest := ih 0
    split
    · simp only [texts, List.flatten_cons, List.count_append, count_backslashes hc]
      omega
    · simp only [texts, texts_tagPiece_cons, List.flatten_cons, List.count_append, count_backslashes hc]
      omega
  | bracket cs h ih =>
    rw [pieces_bracket h, flatten_texts_putBefore, List.append_assoc, List.count_append,
      count_backslashes hc, Nat.zero_add, List.singleton_append, List.count_cons, List.count_cons]
    exact Nat.add_le_add_right (ih 0) _
  | char d cs hslash hopen ih =>
    rw [pieces_char hslash hopen, flatten_texts_putBefore, List.append_assoc, List.count_append,
      count_backslashes hc, Nat.zero_add, List.singleton_append, List.count_cons, List.count_cons]
    exact Nat.add_le_add_right (ih 0) _

/-! ### Reading what was escaped -/

/-- A bracket is opened in the text before one is closed. -/
def OpensFirst (cs : List Char) : Prop := ∀ xs rest, cs = xs ++ ']' :: rest → '[' ∈ xs

theorem backslashes_append_eq (h : backslashes n ++ cs = xs ++ ']' :: rest) :
    ∃ ys, xs = backslashes n ++ ys ∧ cs = ys ++ ']' :: rest := by
  rcases List.append_eq_append_iff.mp h with ⟨ys, hxs, hcs⟩ | ⟨ys, hn, hrest⟩
  · exact ⟨ys, hxs, hcs⟩
  · cases ys with
    | nil => exact ⟨[], by simpa using hn.symm, by simpa using hrest.symm⟩
    | cons y ys =>
      obtain ⟨rfl, -⟩ := List.cons.inj hrest
      have hmem : ']' ∈ backslashes n := by rw [hn]; simp
      exact absurd (eq_of_mem_backslashes hmem) (by decide)

/-- What is closed before a bracket is opened in an escaped text is so in the text. -/
theorem of_escapeTags_append_eq (ht : OpensFirst tail) (hxs : '[' ∉ xs)
    (h : escapeTags n cs ++ tail = xs ++ ']' :: rest) :
    ∃ rest', backslashes n ++ cs = xs ++ ']' :: rest' := by
  induction cs generalizing n xs with
  | nil =>
    obtain ⟨ys, rfl, htail⟩ := backslashes_append_eq h
    exact absurd (List.mem_append_right _ (ht ys rest htail)) hxs
  | cons c cs ih =>
    by_cases hslash : c = '\\'
    · rw [hslash, escapeTags_backslash] at h
      rw [hslash, ← backslashes_succ_append]
      exact ih hxs h
    · obtain ⟨m, hm, htag⟩ : ∃ m, escapeTags n (c :: cs) = backslashes m ++ c :: escapeTags 0 cs ∧
          (c ≠ '[' → m = n) := by
        rw [escapeTags, if_neg hslash]
        split
        · next hc => exact ⟨_, rfl, fun hne => absurd hc.1 hne⟩
        · exact ⟨_, rfl, fun _ => rfl⟩
      rw [hm, List.append_assoc, List.cons_append] at h
      obtain ⟨ys, rfl, hys⟩ := backslashes_append_eq h
      cases ys with
      | nil =>
        obtain ⟨rfl, -⟩ := List.cons.inj hys
        exact ⟨cs, by rw [htag (by decide), List.append_nil]⟩
      | cons y ys =>
        obtain ⟨rfl, htl⟩ := List.cons.inj hys
        simp only [List.mem_append, List.mem_cons, not_or] at hxs
        obtain ⟨rest', hrest⟩ := ih hxs.2.2 htl
        rw [backslashes_zero, List.nil_append] at hrest
        exact ⟨rest', by rw [htag (Ne.symm hxs.2.1), hrest]; simp⟩

/-- Escaping a text makes no tag of it. -/
theorem tag?_escapeTags_append (ht : OpensFirst tail) (h : tag? cs = none) :
    tag? (escapeTags 0 cs ++ tail) = none := by
  cases htag : tag? (escapeTags 0 cs ++ tail) with
  | none => rfl
  | some name =>
    obtain ⟨hname, rest, hrest⟩ := of_tag? htag
    obtain ⟨rest', hcs⟩ := of_escapeTags_append_eq ht hname.not_opening hrest
    rw [backslashes_zero, List.nil_append] at hcs
    exact absurd (h.symm.trans (hcs ▸ tag?_append hname rest')) (by simp)

/-- The pieces that a text is read as which has been escaped, behind `n` backslashes that are not
written yet and in front of `tail`. -/
def read (tail : List Char) (n : Nat) (cs : List Char) : List Piece :=
  pieces 0 0 (escapeTags n cs ++ tail)

theorem read_nil (tail : List Char) (n : Nat) : read tail n [] = pieces 0 n tail := by
  rw [read, escapeTags, pieces_backslashes_append, Nat.zero_add]

theorem read_backslash (tail : List Char) (n : Nat) (cs : List Char) :
    read tail n ('\\' :: cs) = read tail (n + 1) cs := rfl

theorem read_tag (h : IsName name) (tail : List Char) (n : Nat) (cs : List Char) :
    read tail n (bracketed name ++ cs) =
      .text (backslashes n) :: .text (bracketed name) :: read tail 0 cs := by
  rw [read, escapeTags_tag h, List.append_assoc, List.append_assoc, pieces_backslashes_append,
    pieces_tag h, if_pos (by omega), read]
  congr 3
  omega

theorem read_bracket (ht : OpensFirst tail) (h : tag? cs = none) (n : Nat) :
    read tail n ('[' :: cs) = putBefore (backslashes (n - 1) ++ ['[']) (read tail 0 cs) := by
  rw [read, escapeTags_bracket h, List.append_assoc, List.cons_append, pieces_backslashes_append,
    pieces_bracket (tag?_escapeTags_append ht h), Nat.zero_add, read]

theorem read_char (hslash : c ≠ '\\') (hopen : c ≠ '[') (tail : List Char) (n : Nat)
    (cs : List Char) :
    read tail n (c :: cs) = putBefore (backslashes n ++ [c]) (read tail 0 cs) := by
  rw [read, escapeTags_char hslash hopen, List.append_assoc, List.cons_append,
    pieces_backslashes_append, pieces_char hslash hopen, Nat.zero_add, read]

/-- Each character but backslashes is shown as often as it occurs, if it is not in the tail. -/
theorem count_read (ht : OpensFirst tail) (hc : c ≠ '\\') (htail : c ∉ tail) (n : Nat)
    (cs : List Char) : (texts (read tail n cs)).flatten.count c = cs.count c := by
  induction cs using tag_induction generalizing n with
  | nil =>
    have h := count_pieces_le hc n tail
    rw [List.count_eq_zero_of_not_mem htail] at h
    rw [read_nil, List.count_nil]
    exact Nat.le_zero.mp h
  | backslash cs ih => rw [read_backslash, ih, List.count_cons_of_ne (Ne.symm hc)]
  | tag name cs h ih =>
    rw [read_tag h]
    simp only [texts, List.flatten_cons, List.count_append, count_backslashes hc, ih, Nat.zero_add]
  | bracket cs h ih =>
    rw [read_bracket ht h, read, flatten_texts_putBefore, ← read]
    simp only [List.count_append, count_backslashes hc, ih, Nat.zero_add, List.count_cons,
      List.count_nil]
    omega
  | char d cs hslash hopen ih =>
    rw [read_char hslash hopen, read, flatten_texts_putBefore, ← read]
    simp only [List.count_append, count_backslashes hc, ih, Nat.zero_add, List.count_cons,
      List.count_nil]
    omega

/-! ### Texts in front of closing tags -/

/-- What may stand behind an escaped text: nothing, or a closing tag. -/
inductive IsClosing : List Char → Prop where
  /-- Nothing. -/
  | nothing : IsClosing []
  /-- A closing tag. -/
  | tag {name : List Char} (h : ∀ c ∈ name, c.isLower = true) : IsClosing (bracketed ('/' :: name))

/-- A character that a closing tag can be made of. -/
def isClosingChar (c : Char) : Bool := c == '[' || c == '/' || c == ']' || c.isLower

theorem toNat_of_isLower (h : c.isLower = true) : 'a'.toNat ≤ c.toNat ∧ c.toNat ≤ 'z'.toNat := by
  obtain ⟨hfirst, hlast⟩ := Bool.and_eq_true_iff.mp h
  exact ⟨of_decide_eq_true hfirst, of_decide_eq_true hlast⟩

theorem isName_of_isLower (h : ∀ c ∈ name, c.isLower = true) : IsName ('/' :: name) := by
  have hnot {d : Char} (hd : d.isLower = false) (hslash : d ≠ '/') : d ∉ '/' :: name := by
    rintro (- | ⟨-, hmem⟩)
    · exact hslash rfl
    · exact Bool.false_ne_true (hd.symm.trans (h d hmem))
  exact ⟨rfl, hnot (by decide) (by decide), hnot (by decide) (by decide)⟩

/-- A tag of a few small letters. -/
structure IsLetterTag (tag : String) : Prop where
  /-- There is a letter. -/
  ne_nil : tag.toList ≠ []
  /-- All are small letters. -/
  lower : ∀ c ∈ tag.toList, c.isLower = true
  /-- They are few. -/
  short : tag.toList.length ≤ 6

instance (tag : String) : Decidable (IsLetterTag tag) :=
  decidable_of_iff
    (tag.toList ≠ [] ∧ tag.toList.all Char.isLower = true ∧ tag.toList.length ≤ 6)
    ⟨fun h => ⟨h.1, List.all_eq_true.mp h.2.1, h.2.2⟩,
      fun h => ⟨h.ne_nil, List.all_eq_true.mpr h.lower, h.short⟩⟩

theorem isLetterTag_bold : IsLetterTag "bold" := by decide

theorem isLetterTag_green : IsLetterTag "green" := by decide

theorem isLetterTag_yellow : IsLetterTag "yellow" := by decide

theorem IsLetterTag.isClosing {tag : String} (h : IsLetterTag tag) :
    IsClosing (bracketed ('/' :: tag.toList)) := .tag h.lower

theorem IsLetterTag.isName {tag : String} (h : IsLetterTag tag) : IsName tag.toList := by
  have hclosing := isName_of_isLower h.lower
  refine ⟨?_, fun hmem => hclosing.not_opening (List.mem_cons_of_mem _ hmem),
    fun hmem => hclosing.not_closing (List.mem_cons_of_mem _ hmem)⟩
  obtain ⟨c, cs, hcs⟩ := List.exists_cons_of_ne_nil h.ne_nil
  obtain ⟨hfirst, hlast⟩ : 'a' ≤ c ∧ c ≤ 'z' :=
    toNat_of_isLower (h.lower c (hcs ▸ List.mem_cons_self))
  simp [hcs, isTagStart, hfirst, hlast]

variable {closing : List Char}

theorem IsClosing.of_mem (h : IsClosing closing) (hc : c ∈ closing) :
    isClosingChar c = true := by
  cases h with
  | nothing => cases hc
  | tag hname =>
    simp only [bracketed, List.mem_append, List.mem_cons, List.not_mem_nil, or_false] at hc
    rcases hc with (rfl | rfl | hc) | rfl
    · rfl
    · rfl
    · simp [isClosingChar, hname c hc]
    · rfl

theorem IsClosing.not_mem (h : IsClosing closing) (hc : isClosingChar c = false) : c ∉ closing :=
  fun hmem => Bool.false_ne_true (hc.symm.trans (h.of_mem hmem))

/-- What stands behind a text when it has been escaped: the backslash that escaping adds, and what
comes next. -/
def behind (closing cs : List Char) : List Char :=
  backslashes (if backslashesAtEnd cs = 1 then 1 else 0) ++ closing

theorem escape_append (closing cs : List Char) :
    escape cs ++ closing = escapeTags 0 cs ++ behind closing cs := by
  have hend : endsWithBackslash (escapeTags 0 cs) = true ↔ backslashesAtEnd cs = 1 := by
    rw [endsWithBackslash_iff, backslashesAtEnd_escapeTags]
    rfl
  rw [escape, behind]
  split
  · next h => rw [if_pos (hend.mp h), List.append_assoc]; rfl
  · next h => rw [if_neg fun h' => h (hend.mpr h')]; rfl

theorem opensFirst_behind (h : IsClosing closing) (cs : List Char) :
    OpensFirst (behind closing cs) := by
  intro xs rest heq
  obtain ⟨ys, rfl, hys⟩ := backslashes_append_eq heq
  cases h with
  | nothing => cases ys <;> cases hys
  | tag hname =>
    cases ys with
    | nil => exact absurd (List.cons.inj hys).1 (by decide)
    | cons y ys =>
      obtain rfl : '[' = y := (List.cons.inj hys).1
      exact List.mem_append_right _ List.mem_cons_self

theorem not_mem_behind (h : IsClosing closing) (hslash : c ≠ '\\') (hc : isClosingChar c = false)
    (cs : List Char) : c ∉ behind closing cs := by
  rw [behind, List.mem_append, not_or]
  exact ⟨fun hmem => hslash (eq_of_mem_backslashes hmem), h.not_mem hc⟩

/-- What is shown of an escaped text with a closing tag or nothing behind it. -/
theorem plain_render_append (closing cs : List Char) : plain (render (escape cs ++ closing)) =
    ((texts (read (behind closing cs) 0 cs)).flatMap Emoji.replace).filter fun c => !isDropped c := by
  rw [plain_render, escape_append]
  rfl

/-- An opening tag in front is not shown. -/
theorem plain_render_enclose {tag : String} (h : IsLetterTag tag) (cs : List Char) :
    plain (render (enclose tag cs)) =
      plain (render (escape cs ++ bracketed ('/' :: tag.toList))) := by
  rw [plain_render, plain_render, enclose, List.append_assoc, pieces_tag h.isName, texts,
    if_neg (by decide), texts_tagPiece_cons]
  rfl

theorem count_shown_le (h : IsClosing closing) (hslash : c ≠ '\\') (hc : isClosingChar c = false)
    (hsign : Emoji.isSignChar c = false) (cs : List Char) :
    ((texts (read (behind closing cs) 0 cs)).flatMap Emoji.replace).count c ≤ cs.count c :=
  Nat.le_trans (Emoji.count_flatMap_replace_le hsign _)
    (Nat.le_of_eq (count_read (opensFirst_behind h cs) hslash (not_mem_behind h hslash hc cs) 0 cs))

/-- A character that occurs neither in signs nor in closing tags is shown at most as often as it
occurs. -/
theorem count_plain_render_le (h : IsClosing closing) (hslash : c ≠ '\\')
    (hc : isClosingChar c = false) (hsign : Emoji.isSignChar c = false) (cs : List Char) :
    (plain (render (escape cs ++ closing))).count c ≤ cs.count c := by
  rw [plain_render_append]
  exact Nat.le_trans (List.filter_sublist.count_le c) (count_shown_le h hslash hc hsign cs)

theorem toNat_of_isDropped (h : isDropped c = true) :
    c.toNat = 0x7 ∨ c.toNat = 0x8 ∨ c.toNat = 0xb ∨ c.toNat = 0xc ∨ c.toNat = 0xd := by
  simpa [isDropped] using h

theorem of_isDropped (h : isDropped c = true) :
    c ≠ '\\' ∧ isClosingChar c = false ∧ Emoji.isSignChar c = false := by
  rw [← Char.ofNat_toNat c]
  rcases toNat_of_isDropped h with hc | hc | hc | hc | hc <;> rw [hc] <;> decide

/-- Of a text without characters that are dropped, nothing is dropped. -/
theorem plain_render_eq_flatMap (h : IsClosing closing) (hcs : ∀ c ∈ cs, isDropped c = false) :
    plain (render (escape cs ++ closing)) =
      (texts (read (behind closing cs) 0 cs)).flatMap Emoji.replace := by
  rw [plain_render_append, List.filter_eq_self]
  intro c hmem
  by_contra hdropped
  rw [Bool.not_eq_true, Bool.not_eq_false'] at hdropped
  obtain ⟨hslash, hclosing, hsign⟩ := of_isDropped hdropped
  have hle := count_shown_le h hslash hclosing hsign cs
  have hnot : c ∉ cs := fun hc => Bool.false_ne_true ((hcs c hc).symm.trans hdropped)
  rw [List.count_eq_zero_of_not_mem hnot] at hle
  exact List.count_eq_zero.mp (Nat.le_zero.mp hle) hmem

/-! ### Styles -/

/-- Pieces without tags, up to a closing tag at the end. -/
inductive IsWithin : List Piece → Prop where
  /-- Nothing. -/
  | nil : IsWithin []
  /-- A text in front. -/
  | text (cs : List Char) {ps : List Piece} : IsWithin ps → IsWithin (.text cs :: ps)
  /-- A closing tag with nothing behind it. -/
  | closing (name : String) : IsWithin [.closing name, .text []]

theorem IsWithin.putBefore {ps : List Piece} (h : IsWithin ps) (xs : List Char) :
    IsWithin (putBefore xs ps) := by
  cases h with
  | nil => exact .text xs .nil
  | text cs hps => exact .text (xs ++ cs) hps
  | closing name => exact .text xs (.closing name)

/-- The tags around a text that pieces without tags make are those around the pieces. -/
theorem IsWithin.snd_of_mem_around {ps : List Piece} (h : IsWithin ps) (tags : List String) :
    ∀ e ∈ around tags ps, e.2 = tags := by
  induction h with
  | nil => exact fun e he => absurd he List.not_mem_nil
  | text cs hps ih =>
    intro e he
    rcases List.mem_append.mp he with he | he
    · obtain ⟨c, -, rfl⟩ := List.mem_map.mp he
      rfl
    · exact ih e he
  | closing name => exact fun e he => absurd he List.not_mem_nil

theorem IsClosing.isWithin_pieces (h : IsClosing closing) (n : Nat) : IsWithin (pieces 0 n closing) := by
  cases h with
  | nothing => exact .text _ .nil
  | @tag name hname =>
    rw [← List.append_nil (bracketed ('/' :: name)), pieces_tag (isName_of_isLower hname)]
    split
    · exact .text _ (.text _ (.text _ .nil))
    · exact .text _ (.closing _)

/-- There are no tags in an escaped text. -/
theorem isWithin_read (h : IsClosing closing) (ds : List Char) (n : Nat) (cs : List Char) :
    IsWithin (read (behind closing ds) n cs) := by
  induction cs using tag_induction generalizing n with
  | nil =>
    rw [read_nil, behind, pieces_backslashes_append]
    exact h.isWithin_pieces _
  | backslash cs ih => exact ih (n + 1)
  | tag name cs hname ih =>
    rw [read_tag hname]
    exact .text _ (.text _ (ih 0))
  | bracket cs htag ih =>
    rw [read_bracket (opensFirst_behind h ds) htag]
    exact (ih 0).putBefore _
  | char c cs hslash hopen ih =>
    rw [read_char hslash hopen]
    exact (ih 0).putBefore _

theorem isWithin_pieces_escape (h : IsClosing closing) (cs : List Char) :
    IsWithin (pieces 0 0 (escape cs ++ closing)) := by
  rw [escape_append]
  exact isWithin_read h cs 0 cs

/-- An escaped text is shown in the default style. -/
theorem style_of_mem_render_escape (cs : List Char) :
    ∀ g ∈ render (escape cs), g.style = [] ∧ g.starts = false := by
  intro g hg
  obtain ⟨e, he, rfl⟩ := List.mem_map.mp hg
  have hpieces := isWithin_pieces_escape .nothing cs
  rw [List.append_nil] at hpieces
  have htags := hpieces.snd_of_mem_around [] e (List.mem_of_mem_filter he)
  simp [htags]

theorem IsLetterTag.tagPiece_eq {tag : String} (h : IsLetterTag tag) : tagPiece tag.toList = .opening tag := by
  rw [tagPiece.eq_def]
  split
  · next name heq =>
    have hslash := h.lower '/' (by rw [heq]; exact List.mem_cons_self)
    exact absurd hslash (by decide)
  · rw [String.ofList_toList]

/-- A text between tags is shown in their style. -/
theorem style_of_mem_render_enclose {tag : String} (h : IsLetterTag tag) (cs : List Char) :
    ∀ g ∈ render (enclose tag cs), g.style = tagStyle tag ∧ g.starts = false := by
  intro g hg
  obtain ⟨e, he, rfl⟩ := List.mem_map.mp hg
  have hmem := List.mem_of_mem_filter he
  rw [parse, enclose, List.append_assoc, pieces_tag h.isName, if_neg (by decide), h.tagPiece_eq] at hmem
  have htags := (isWithin_pieces_escape h.isClosing cs).snd_of_mem_around [tag] e hmem
  simp [htags]

end Conformance.Report.Markup
