/-!
# Splitting at a character

`splitOn sep` cuts a text at every occurrence of a character; there is one piece more than
there are occurrences. `joinWith sep` puts the pieces together again. Each undoes the other
(`joinWith_splitOn`, `splitOn_joinWith`).
-/

namespace Conformance.Text

/-- The pieces of a text between the occurrences of `sep`. -/
def splitOn (sep : Char) : List Char → List (List Char)
  | [] => [[]]
  | c :: cs =>
    if c = sep then [] :: splitOn sep cs
    else
      match splitOn sep cs with
      | [] => [[c]]
      | piece :: pieces => (c :: piece) :: pieces

/-- The pieces with `sep` between them. -/
def joinWith (sep : Char) : List (List Char) → List Char
  | [] => []
  | [piece] => piece
  | piece :: pieces => piece ++ sep :: joinWith sep pieces

/-- There is always a piece. -/
theorem splitOn_ne_nil (sep : Char) (cs : List Char) : splitOn sep cs ≠ [] := by
  cases cs with
  | nil => simp [splitOn]
  | cons c cs =>
    simp only [splitOn]
    split
    · simp
    · split <;> simp

/-- Cutting loses nothing but the character that is cut at. -/
theorem joinWith_splitOn (sep : Char) (cs : List Char) : joinWith sep (splitOn sep cs) = cs := by
  induction cs with
  | nil => rfl
  | cons c cs ih =>
    simp only [splitOn]
    split
    · next h =>
      cases hs : splitOn sep cs with
      | nil => exact absurd hs (splitOn_ne_nil sep cs)
      | cons p ps => simp [joinWith, ← hs, ih, h]
    · cases hs : splitOn sep cs with
      | nil => exact absurd hs (splitOn_ne_nil sep cs)
      | cons p ps =>
        rw [hs] at ih
        cases ps with
        | nil => simpa [joinWith] using ih
        | cons q qs => simpa [joinWith] using ih

/-- A text without `sep` is a single piece. -/
theorem splitOn_of_not_mem {sep : Char} {cs : List Char} (h : sep ∉ cs) :
    splitOn sep cs = [cs] := by
  induction cs with
  | nil => rfl
  | cons c cs ih =>
    simp only [List.mem_cons, not_or] at h
    simp [splitOn, Ne.symm h.1, ih h.2]

/-- The first piece ends where `sep` occurs first. -/
theorem splitOn_append_cons {sep : Char} {piece : List Char} (cs : List Char) (h : sep ∉ piece) :
    splitOn sep (piece ++ sep :: cs) = piece :: splitOn sep cs := by
  induction piece with
  | nil => simp [splitOn]
  | cons c piece ih =>
    simp only [List.mem_cons, not_or] at h
    simp [splitOn, Ne.symm h.1, ih h.2]

/-- Both sides of an occurrence of `sep` are cut on their own. -/
theorem splitOn_append (sep : Char) (xs ys : List Char) :
    splitOn sep (xs ++ sep :: ys) = splitOn sep xs ++ splitOn sep ys := by
  induction xs with
  | nil => simp [splitOn]
  | cons x xs ih =>
    by_cases hx : x = sep
    · simp [splitOn, hx, ih]
    · obtain ⟨p, ps, hs⟩ := List.exists_cons_of_ne_nil (splitOn_ne_nil sep xs)
      rw [hs, List.cons_append] at ih
      simp only [List.cons_append, splitOn, hx, if_false, ih, hs]

/-- Pieces without `sep` are found again. -/
theorem splitOn_joinWith {sep : Char} {pieces : List (List Char)} (hne : pieces ≠ [])
    (h : ∀ piece ∈ pieces, sep ∉ piece) : splitOn sep (joinWith sep pieces) = pieces := by
  induction pieces with
  | nil => exact absurd rfl hne
  | cons piece pieces ih =>
    have hp : sep ∉ piece := h piece (List.mem_cons_self ..)
    cases pieces with
    | nil => exact splitOn_of_not_mem hp
    | cons next pieces =>
      have hrest := ih (by simp) fun q hq => h q (List.mem_cons_of_mem _ hq)
      rw [joinWith, splitOn_append_cons _ hp, hrest]
      simp

/-- No piece contains the character that was cut at. -/
theorem not_mem_of_mem_splitOn {sep : Char} {cs piece : List Char} (h : piece ∈ splitOn sep cs) :
    sep ∉ piece := by
  induction cs generalizing piece with
  | nil =>
    have hp : piece = [] := by simpa [splitOn] using h
    simp [hp]
  | cons c cs ih =>
    simp only [splitOn] at h
    split at h
    · rcases List.mem_cons.1 h with rfl | h
      · simp
      · exact ih h
    · next hc =>
      obtain ⟨p, ps, hs⟩ := List.exists_cons_of_ne_nil (splitOn_ne_nil sep cs)
      rw [hs] at h ih
      rcases List.mem_cons.1 h with rfl | h
      · simpa [Ne.symm hc] using ih (List.mem_cons_self ..)
      · exact ih (List.mem_cons_of_mem _ h)

theorem intercalate_eq_joinWith (sep : Char) (pieces : List (List Char)) :
    [sep].intercalate pieces = joinWith sep pieces := by
  induction pieces with
  | nil => rfl
  | cons piece pieces ih =>
    cases pieces with
    | nil => simp [joinWith]
    | cons next pieces => rw [List.intercalate_cons_cons, ih]; simp [joinWith]

theorem not_mem_joinWith {sep c : Char} {pieces : List (List Char)} (hsep : c ≠ sep)
    (h : ∀ piece ∈ pieces, c ∉ piece) : c ∉ joinWith sep pieces := by
  induction pieces with
  | nil => exact List.not_mem_nil
  | cons piece pieces ih =>
    have hp : c ∉ piece := h piece List.mem_cons_self
    have hrest := ih fun q hq => h q (List.mem_cons_of_mem _ hq)
    cases pieces with
    | nil => exact hp
    | cons next pieces => simp [joinWith, hp, hsep, hrest]

/-- Between two pieces there is the character that joins them. -/
theorem mem_joinWith {sep : Char} {pieces : List (List Char)} (h : 2 ≤ pieces.length) :
    sep ∈ joinWith sep pieces := by
  match pieces, h with
  | p :: q :: pieces, _ => simp [joinWith]

end Conformance.Text
