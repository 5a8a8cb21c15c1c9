import Conformance.Proofs.Refusal
import Mathlib.Data.List.Nodup

/-!
# Where reading stops

A text that is refused is reported from the first place on at which it cannot go on, and
`Spec.Stops` says without reading which place that is: behind clauses where neither a further clause
nor the word `function` stands, behind the word `function` where no name stands, or behind a whole
specification. The part in front of such a place is the beginning of a specification
(`Spec.Stops.filled`), and the three cases exclude each other (`Spec.Stops.gap_unique`).

Reading a long form ends at such a place whenever it fails (`Spec.exists_stops`), and it fails
wherever there is one (`Spec.Stops.readLong`).
-/

namespace Conformance

open Text

namespace Text

/-! ### Beginnings of texts -/

/-- The text begins with the word, and the word ends at a word boundary. -/
def StartsWith (word cs : List Char) : Prop :=
  ∃ rest, cs = word ++ rest ∧ startsOutsideWord rest = true

/-- The text does not begin with a blank. -/
def IsTrimmed (cs : List Char) : Prop := ∀ c ∈ cs.head?, isBlank c = false

theorem readWord?_eq_none_iff {word cs : List Char} :
    readWord? word cs = none ↔ ¬ StartsWith word cs := by
  rw [Option.eq_none_iff_forall_ne_some, StartsWith, not_exists]
  exact forall_congr' fun rest => not_congr readWord?_eq_some_iff

theorem readIdentifier?_eq_none_iff {cs : List Char} :
    readIdentifier? cs = none ↔ ∀ c ∈ cs.head?, isAsciiLetter c = false := by
  cases cs with
  | nil => simp [readIdentifier?]
  | cons c cs => simp [readIdentifier?]

/-- An identifier is read up to the next word boundary. -/
theorem readIdentifier?_append {name r : List Char} (hn : isIdentifier name = true)
    (hr : startsOutsideWord r = true) : readIdentifier? (name ++ r) = some (name, r) := by
  have hdrop : r.dropWhile isAsciiWord = r := by
    cases r with
    | nil => rfl
    | cons c r =>
      have hc : isAsciiWord c = false := by simpa [startsOutsideWord] using hr
      exact List.dropWhile_cons_of_neg (by simp [hc])
  have htake : r.takeWhile isAsciiWord = [] := by
    have h := List.takeWhile_append_dropWhile (p := isAsciiWord) (l := r)
    rw [hdrop] at h
    exact List.append_left_eq_self.mp h
  cases name with
  | nil => cases hn
  | cons c cs =>
    simp only [isIdentifier, Bool.and_eq_true, List.all_eq_true] at hn
    rw [List.cons_append, readIdentifier?, if_pos hn.1, List.takeWhile_append_of_pos hn.2,
      List.dropWhile_append_of_pos hn.2, hdrop, htake, List.append_nil]

theorem isTrimmed_trimStart (cs : List Char) : IsTrimmed (trimStart cs) := by
  intro c hc
  have h := List.head?_dropWhile_not isBlank cs
  rw [show (cs.dropWhile isBlank).head? = some c from hc] at h
  exact h

theorem trimStart_of_isTrimmed {cs : List Char} (h : IsTrimmed cs) :
    trimStart cs = cs := by
  cases cs with
  | nil => rfl
  | cons c cs => exact trimStart_cons_of_not_blank (h c rfl)

/-- What follows at the end of a text that is not empty does not matter for its beginning. -/
theorem startsOutsideWord_append_of_ne_nil {cs : List Char} (hne : cs ≠ []) (r s : List Char) :
    startsOutsideWord (cs ++ r) = startsOutsideWord (cs ++ s) := by
  obtain ⟨c, cs, rfl⟩ := List.exists_cons_of_ne_nil hne
  rfl

end Text

namespace Spec

variable {ks : List Clause} {p r s cs rest name : List Char}

/-! ### Words at the start of a text -/

theorem isTrimmed_of_startsWith {k : Clause} (h : StartsWith k.keyword.toList r) : IsTrimmed r := by
  obtain ⟨rest, rfl, -⟩ := h
  rw [← trimStart_keyword_append]
  exact isTrimmed_trimStart _

/-- Where a clause stands, the word `function` does not. -/
theorem not_startsWith_functionWord {k : Clause} (h : StartsWith k.keyword.toList r) :
    ¬ StartsWith functionWord r := by
  obtain ⟨rest, hk, hb⟩ := h
  rintro ⟨rest', hf, hb'⟩
  exact keyword_append_ne_functionWord_append hb hb' (hk.symm.trans hf)

/-- Where a clause stands, no other one does. -/
theorem eq_of_startsWith {k l : Clause} (hk : StartsWith k.keyword.toList r)
    (hl : StartsWith l.keyword.toList r) : k = l := by
  obtain ⟨rest, hk, hb⟩ := hk
  obtain ⟨rest', hl, hb'⟩ := hl
  exact (eq_of_keyword_append (hk.symm.trans hl) hb hb').1

/-! ### Texts that begin with clauses -/

/-- What is behind the clauses may be replaced, as long as a word boundary stays one. -/
theorem Opens.exists_append (h : Opens rest ks cs) :
    ∃ q, cs = q ++ rest ∧ ∀ rest',
      (startsOutsideWord rest = true → startsOutsideWord rest' = true) →
        Opens rest' ks (q ++ rest') := by
  induction h with
  | nil => exact ⟨[], rfl, fun _ _ => Opens.nil⟩
  | @cons k ks w cs hw hb _ ih =>
    obtain ⟨q, rfl, hq⟩ := ih
    refine ⟨w ++ (k.keyword.toList ++ q), by simp only [List.append_assoc], fun rest' hrest => ?_⟩
    have hb' : startsOutsideWord (q ++ rest') = true := by
      by_cases hne : q = []
      · subst hne
        exact hrest hb
      · rw [startsOutsideWord_append_of_ne_nil hne rest' rest]
        exact hb
    rw [List.append_assoc, List.append_assoc]
    exact Opens.cons hw hb' (hq rest' hrest)

/-- In `p ++ r`, the part `p` consists of the clauses with blanks between and around them, each
clause up to a word boundary. The clauses are of different categories and do not contradict each
other. -/
def Leads (ks : List Clause) (p r : List Char) : Prop :=
  (∃ w, AllBlank w ∧ Opens (w ++ r) ks (p ++ r)) ∧ (ks.map Clause.category).Nodup ∧
    ¬ Contradictory ks

namespace Leads

/-- What is behind the clauses may be replaced, as long as a word boundary stays one. -/
theorem replace (h : Leads ks p r) (hs : startsOutsideWord r = true → startsOutsideWord s = true) :
    Leads ks p s := by
  obtain ⟨⟨w, hw, ho⟩, hd, hc⟩ := h
  obtain ⟨q, hq, hreplace⟩ := ho.exists_append
  rw [← List.append_assoc, List.append_cancel_right_eq] at hq
  subst hq
  refine ⟨⟨w, hw, ?_⟩, hd, hc⟩
  rw [List.append_assoc]
  refine hreplace (w ++ s) fun hb => ?_
  by_cases hne : w = []
  · subst hne
    exact hs hb
  · exact startsOutsideWord_append hw hne s

/-- More may follow behind what is not empty. -/
theorem extend (h : Leads ks p r) (hr : r ≠ []) (s : List Char) : Leads ks p (r ++ s) := by
  refine h.replace fun hb => ?_
  rw [startsOutsideWord_append_of_ne_nil hr s [], List.append_nil]
  exact hb

/-- The blanks behind the clauses may be counted to them. -/
theorem append {v : List Char} (h : Leads ks p (v ++ r)) (hv : AllBlank v) :
    Leads ks (p ++ v) r := by
  obtain ⟨⟨w, hw, ho⟩, hd, hc⟩ := h
  refine ⟨⟨w ++ v, hw.append hv, ?_⟩, hd, hc⟩
  rw [List.append_assoc, List.append_assoc]
  exact ho

/-- Clauses with the word `function` and a name behind them are a long form. -/
theorem denotes {v : List Char} (h : Leads ks p (functionWord ++ (v ++ name))) (hv : AllBlank v)
    (hne : v ≠ []) (hn : isIdentifier name = true) :
    Denotes (p ++ (functionWord ++ (v ++ name))) ks name := by
  obtain ⟨⟨w, hw, ho⟩, hd, hc⟩ := h
  have ht : trimStart (w ++ (functionWord ++ (v ++ name))) = functionWord ++ (v ++ name) :=
    trimStart_append hw _
  obtain ⟨u, ds, hu, hs, he⟩ := ho.sentence ht hv hne hn
  rw [he]
  exact Denotes.long hu hs hd hc

end Leads

/-- A text that denotes something and is no name alone consists of clauses, the word `function` and
the name. -/
theorem Denotes.exists_leads (h : Denotes cs ks name) (hcs : isIdentifier cs = false) :
    ∃ p v, cs = p ++ (functionWord ++ (v ++ name)) ∧ AllBlank v ∧ v ≠ [] ∧
      Leads ks p (functionWord ++ (v ++ name)) := by
  cases h with
  | bare hn =>
    rw [hn] at hcs
    cases hcs
  | long hw hs hd hc =>
    obtain ⟨u, v, hu, hv, hne, ho⟩ := hs.opens hw
    obtain ⟨q, hq, -⟩ := ho.exists_append
    refine ⟨q ++ u, v, by rw [hq, List.append_assoc], hv, hne, ⟨u, hu, ?_⟩, hd, hc⟩
    rw [List.append_assoc, ← hq]
    exact ho

/-! ### Where a text cannot go on -/

/-- What a text lacks at the place at which it cannot go on. -/
inductive Gap where
  /-- A clause that may follow, or the word `function`. -/
  | word
  /-- A name. -/
  | name
  /-- Nothing: there is a whole specification already. -/
  | nothing

/-- What a text may go on with in place of a gap. -/
def Gap.filler : Gap → String
  | .word => " function f"
  | .name => " f"
  | .nothing => ""

/-- The text `p ++ r` cannot go on behind `p`. -/
inductive Stops : Gap → List Char → List Char → Prop where
  /-- Behind clauses there is neither the word `function` nor a clause of another category that
  does not contradict them. -/
  | word {ks : List Clause} {p r : List Char} : Leads ks p r → IsTrimmed r →
      ¬ StartsWith functionWord r →
      (∀ k : Clause, StartsWith k.keyword.toList r →
        k.category ∈ ks.map Clause.category ∨ Contradictory (ks ++ [k])) →
      Stops .word p r
  /-- Behind clauses, the word `function` and blanks there is no name. -/
  | name {ks : List Clause} {p v r : List Char} : Leads ks p (functionWord ++ (v ++ r)) →
      AllBlank v → startsOutsideWord (v ++ r) = true → IsTrimmed r →
      (∀ c ∈ r.head?, isAsciiLetter c = false) → Stops .name (p ++ (functionWord ++ v)) r
  /-- Behind a whole specification in the long form there is something that is not part of the
  name. -/
  | nothing {p r : List Char} {s : Spec} : parse (String.ofList p) = .ok s →
      isIdentifier p = false → r ≠ [] → startsOutsideWord r = true → Stops .nothing p r

/-! ### Reading the long form -/

/-- How reading a long form comes out, when its clauses have been read. -/
inductive LongRead (cs : List Char) : Except (List Char) (Constraints × List Char) → Prop where
  /-- A clause contradicts the others. -/
  | refused {r : List Char} : readClauses Category.all.length Category.all {} cs = .error r →
      LongRead cs (.error r)
  /-- The word `function` is missing. -/
  | noFunction {k : Constraints} {ds : List Char} :
      readClauses Category.all.length Category.all {} cs = .ok (k, ds) →
      ¬ StartsWith functionWord (trimStart ds) → LongRead cs (.error (trimStart ds))
  /-- The name is missing. -/
  | noName {k : Constraints} {ds es : List Char} :
      readClauses Category.all.length Category.all {} cs = .ok (k, ds) →
      trimStart ds = functionWord ++ es → startsOutsideWord es = true →
      (∀ c ∈ (trimStart es).head?, isAsciiLetter c = false) → LongRead cs (.error (trimStart es))
  /-- There is something behind the name. -/
  | trailing {k : Constraints} {ds es n r : List Char} :
      readClauses Category.all.length Category.all {} cs = .ok (k, ds) →
      trimStart ds = functionWord ++ es → startsOutsideWord es = true → trimStart es = n ++ r →
      isIdentifier n = true → r ≠ [] → startsOutsideWord r = true → LongRead cs (.error r)
  /-- The name ends the text. -/
  | read {k : Constraints} {n : List Char} : LongRead cs (.ok (k, n))

theorem longRead (cs : List Char) : LongRead cs (readLong cs) := by
  cases hread : readClauses Category.all.length Category.all {} cs with
  | error r =>
    simp only [readLong, hread, error_bind]
    exact .refused hread
  | ok q =>
    obtain ⟨k, ds⟩ := q
    simp only [readLong, hread, ok_bind]
    cases hf : readWord? functionWord (trimStart ds) with
    | none => exact .noFunction hread (readWord?_eq_none_iff.mp hf)
    | some es =>
      obtain ⟨hds, hes⟩ := readWord?_eq_some_iff.mp hf
      cases hi : readIdentifier? (trimStart es) with
      | none =>
        simp only [hi]
        exact .noName hread hds hes (readIdentifier?_eq_none_iff.mp hi)
      | some q =>
        obtain ⟨n, r⟩ := q
        obtain ⟨hnr, hn, hr⟩ := readIdentifier?_eq_some hi
        cases r with
        | nil =>
          simp only [hi]
          exact .read
        | cons c r =>
          simp only [hi]
          exact .trailing hread hds hes hnr hn (List.cons_ne_nil c r) hr

/-- The clauses that lead to a place are read, and reading goes on from there with the categories
that are left. -/
theorem Leads.readClauses (h : Leads ks p r) :
    ∃ (n : ℕ) (k : Constraints) (w : List Char), Category.all.length = ks.length + n ∧
      k.Collects ks ∧ AllBlank w ∧
      readClauses Category.all.length Category.all {} (p ++ r) =
        Spec.readClauses n (Category.all.diff (ks.map Clause.category)) k (w ++ r) := by
  obtain ⟨⟨w, hw, ho⟩, hd, hc⟩ := h
  obtain ⟨n, hn⟩ := Nat.exists_eq_add_of_le (length_le_of_nodup hd)
  obtain ⟨k, hk, hread⟩ := readClauses_of_opens ho n Constraints.collects_nil hd hc
    fun c _ => Category.mem_all c.category
  exact ⟨n, k, w, hn, hk, hw, by rw [hn, hread]⟩

/-- A category is left for clauses if and only if none of the clauses is about it. -/
theorem mem_left_iff {c : Category} :
    c ∈ Category.all.diff (ks.map Clause.category) ↔ c ∉ ks.map Clause.category := by
  have hall : Category.all.Nodup := by decide
  rw [List.Nodup.mem_sdiff_iff hall]
  exact and_iff_right c.mem_all

/-- No clause of a category that is left is read where none stands. -/
theorem readClause?_left_eq_none
    (h : ∀ k : Clause, StartsWith k.keyword.toList r → k.category ∈ ks.map Clause.category) :
    readClause? (Category.all.diff (ks.map Clause.category)) r = none := by
  cases hread : readClause? (Category.all.diff (ks.map Clause.category)) r with
  | none => rfl
  | some q =>
    obtain ⟨k, ds⟩ := q
    obtain ⟨hk, hr, hb⟩ := readClause?_eq_some_iff.mp hread
    exact absurd (h k ⟨ds, hr, hb⟩) (mem_left_iff.mp hk)

/-- Where no clause of a category that is left stands, reading clauses stops. -/
theorem Leads.exists_readClauses (h : Leads ks p r) (hr : IsTrimmed r)
    (hno : ∀ k : Clause, StartsWith k.keyword.toList r → k.category ∈ ks.map Clause.category) :
    ∃ k ds, Spec.readClauses Category.all.length Category.all {} (p ++ r) = .ok (k, ds) ∧
      trimStart ds = r := by
  obtain ⟨n, k, w, -, -, hw, hread⟩ := h.readClauses
  have ht : trimStart (w ++ r) = r := by rw [trimStart_append hw, trimStart_of_isTrimmed hr]
  have hnone := ht ▸ readClause?_left_eq_none hno
  obtain ⟨ds, hds, htrim⟩ := readClauses_of_none n k hnone
  exact ⟨k, ds, by rw [hread, hds], by rw [htrim, ht]⟩

/-- Where the word `function` stands, reading clauses stops. -/
theorem Leads.exists_readClauses_functionWord {es : List Char} (h : Leads ks p (functionWord ++ es))
    (hb : startsOutsideWord es = true) :
    ∃ k ds, Spec.readClauses Category.all.length Category.all {} (p ++ (functionWord ++ es)) =
      .ok (k, ds) ∧ trimStart ds = functionWord ++ es := by
  refine h.exists_readClauses ?_ ?_
  · intro c hc
    obtain rfl : 'f' = c := Option.some.inj hc
    decide
  · intro k hk
    exact absurd ⟨es, rfl, hb⟩ (not_startsWith_functionWord hk)

/-- A clause of a new category that contradicts those before it is refused. -/
theorem Leads.readClauses_eq_error (h : Leads ks p r) {k : Clause}
    (hk : StartsWith k.keyword.toList r) (hnew : k.category ∉ ks.map Clause.category)
    (hc : Contradictory (ks ++ [k])) :
    Spec.readClauses Category.all.length Category.all {} (p ++ r) = .error r := by
  obtain ⟨n, c, w, hn, hcollects, hw, hread⟩ := h.readClauses
  obtain ⟨rest, rfl, hb⟩ := hk
  have ht : trimStart (w ++ (k.keyword.toList ++ rest)) = k.keyword.toList ++ rest := by
    rw [trimStart_append hw, trimStart_keyword_append]
  have hclause : readClause? (Category.all.diff (ks.map Clause.category))
      (trimStart (w ++ (k.keyword.toList ++ rest))) = some (k, rest) := by
    rw [ht]
    exact readClause?_eq_some_iff.mpr ⟨mem_left_iff.mpr hnew, rfl, hb⟩
  -- the clause is one more of different categories, so that there is a round left for it
  have hlen : (k :: ks).length ≤ Category.all.length :=
    length_le_of_nodup (List.nodup_cons.mpr ⟨hnew, h.2.1⟩)
  obtain ⟨m, rfl⟩ : ∃ m, n = m + 1 := Nat.exists_eq_succ_of_ne_zero (by
    rw [hn, List.length_cons] at hlen
    omega)
  have hconflict : (c.add k).conflicting = true :=
    (hcollects.add hnew).conflicting_iff.mpr hc
  rw [hread, readClauses_succ_of_some m c hclause, if_pos hconflict, ht]

/-! ### Reading fails exactly there -/

/-- What is accepted in the long form. -/
def IsLongForm (cs : List Char) : Prop := ∃ k name, readLong cs = .ok (k, name)

theorem not_isLongForm_of_error (h : readLong cs = .error r) : ¬ IsLongForm cs := by
  rintro ⟨k, name, hk⟩
  cases h.symm.trans hk

/-- A text that is no name alone is read as a long form. -/
theorem isLongForm_of_parse {s : Spec} (h : parse (String.ofList cs) = .ok s)
    (hcs : isIdentifier cs = false) : IsLongForm cs := by
  obtain ⟨ks, -, hd⟩ := denotes_of_parse h
  rw [String.toList_ofList] at hd
  obtain ⟨k, -, hread⟩ := read_of_denotes hd
  rw [read, hcs, if_neg Bool.false_ne_true] at hread
  exact ⟨k, _, hread⟩

/-- Clauses with the word `function` and a name behind them are accepted. -/
theorem Leads.accepted {v : List Char} (h : Leads ks p (functionWord ++ (v ++ name)))
    (hv : AllBlank v) (hne : v ≠ []) (hn : isIdentifier name = true) :
    (∃ s, parse (String.ofList (p ++ (functionWord ++ (v ++ name)))) = .ok s) ∧
      isIdentifier (p ++ (functionWord ++ (v ++ name))) = false := by
  obtain ⟨c, hc⟩ := List.exists_mem_of_ne_nil v hne
  refine ⟨?_, isIdentifier_eq_false (c := c) (by simp [hc]) (hv c hc)⟩
  have hd := h.denotes hv hne hn
  rw [← String.toList_ofList (l := p ++ (functionWord ++ (v ++ name)))] at hd
  obtain ⟨s, -, -, hs⟩ := exists_parse_of_denotes hd
  exact ⟨s, hs⟩

namespace Stops

variable {g g' : Gap}

/-- A text is refused from the place on at which it cannot go on. -/
theorem readLong (h : Stops g p r) : Spec.readLong (p ++ r) = .error r := by
  cases h with
  | @word ks _ _ hl hr hf hno =>
    by_cases hstop :
        ∀ k : Clause, StartsWith k.keyword.toList r → k.category ∈ ks.map Clause.category
    · obtain ⟨k, ds, hread, hds⟩ := hl.exists_readClauses hr hstop
      simp only [Spec.readLong, hread, ok_bind, hds, readWord?_eq_none_iff.mpr hf]
    · push Not at hstop
      obtain ⟨k, hk, hnew⟩ := hstop
      have hc := (hno k hk).resolve_left hnew
      simp only [Spec.readLong, hl.readClauses_eq_error hk hnew hc, error_bind]
  | @name ks p v _ hl hv hb hr hn =>
    obtain ⟨k, ds, hread, hds⟩ := hl.exists_readClauses_functionWord hb
    have ht : trimStart (v ++ r) = r := by rw [trimStart_append hv, trimStart_of_isTrimmed hr]
    rw [List.append_assoc, List.append_assoc]
    simp only [Spec.readLong, hread, ok_bind, hds, readWord?_eq_some_iff.mpr ⟨rfl, hb⟩, ht,
      readIdentifier?_eq_none_iff.mpr hn]
  | @nothing _ _ s hs hp hne hb =>
    obtain ⟨ks, -, hd⟩ := denotes_of_parse hs
    rw [String.toList_ofList] at hd
    obtain ⟨p, v, rfl, hv, hvne, hl⟩ := hd.exists_leads hp
    have hl : Leads ks p (functionWord ++ (v ++ (s.name.toList ++ r))) := by
      have := hl.extend (List.append_ne_nil_of_left_ne_nil isWord_functionWord.1 _) r
      simpa only [List.append_assoc] using this
    have hbound := startsOutsideWord_append hv hvne (s.name.toList ++ r)
    obtain ⟨k, ds, hread, hds⟩ := hl.exists_readClauses_functionWord hbound
    obtain ⟨c, r, rfl⟩ := List.exists_cons_of_ne_nil hne
    have ht : trimStart (v ++ (s.name.toList ++ c :: r)) = s.name.toList ++ c :: r := by
      obtain ⟨d, n, hname, hword⟩ := exists_cons_of_isIdentifier s.isIdentifier_name
      rw [trimStart_append hv, hname]
      exact trimStart_cons_of_not_blank (not_blank_of_isAsciiWord hword)
    simp only [List.append_assoc, Spec.readLong, hread, ok_bind, hds,
      readWord?_eq_some_iff.mpr ⟨rfl, hbound⟩, ht, readIdentifier?_append s.isIdentifier_name hb]

/-- The part in front of a gap is the beginning of a specification in the long form. -/
theorem filled (h : Stops g p r) :
    (∃ s, parse (String.ofList (p ++ g.filler.toList)) = .ok s) ∧
      isIdentifier (p ++ g.filler.toList) = false := by
  cases h with
  | @word ks _ _ hl _ _ _ =>
    have hl : Leads ks p ([' '] ++ (functionWord ++ ([' '] ++ ['f']))) :=
      hl.replace fun _ => by decide
    have he : p ++ Gap.word.filler.toList = (p ++ [' ']) ++ (functionWord ++ ([' '] ++ ['f'])) := by
      rw [List.append_assoc]
      rfl
    rw [he]
    exact (hl.append .single).accepted .single (by decide) (by decide)
  | @name ks p v _ hl hv _ _ _ =>
    have hl : Leads ks p (functionWord ++ ((v ++ [' ']) ++ ['f'])) :=
      hl.replace fun hb => by
        rw [startsOutsideWord_append_of_ne_nil isWord_functionWord.1 _ (v ++ r)]
        exact hb
    have he : p ++ (functionWord ++ v) ++ Gap.name.filler.toList =
        p ++ (functionWord ++ ((v ++ [' ']) ++ ['f'])) := by
      simp only [List.append_assoc]
      rfl
    rw [he]
    exact hl.accepted (hv.append .single) (by simp) (by decide)
  | @nothing _ _ s hs hp _ _ =>
    have he : p ++ Gap.nothing.filler.toList = p := List.append_nil p
    rw [he]
    exact ⟨⟨s, hs⟩, hp⟩

/-- Behind clauses a text cannot go on with one that contradicts them. -/
theorem word_of_contradictory (h : Leads ks p r) {k : Clause} (hk : StartsWith k.keyword.toList r)
    (hc : Contradictory (ks ++ [k])) : Stops .word p r := by
  refine .word h (isTrimmed_of_startsWith hk) (not_startsWith_functionWord hk) fun l hl => ?_
  obtain rfl := eq_of_startsWith hk hl
  exact Or.inr hc

/-- Behind clauses a text cannot go on where no word can be read that may follow. -/
theorem word_of_readWord? (h : Leads ks p r) (hr : IsTrimmed r)
    (hf : readWord? functionWord r = none)
    (hk : ∀ k : Clause, readWord? k.keyword.toList r = none) : Stops .word p r :=
  .word h hr (readWord?_eq_none_iff.mp hf) fun k hs => absurd hs (readWord?_eq_none_iff.mp (hk k))

/-- What is in front of a gap for a word or for a name is no long form yet. -/
theorem not_isLongForm (h : Stops g p r) (hg : g ≠ .nothing) : ¬ IsLongForm p := by
  -- the text may as well end there
  have hnil : Stops g p [] := by
    cases h with
    | word hl _ _ _ =>
      refine word_of_readWord? (hl.replace fun _ => rfl) (by simp [IsTrimmed]) (by decide) ?_
      rintro (⟨⟨⟩, _ | _⟩ | ⟨⟨⟩⟩ | ⟨⟨⟩⟩) <;> decide
    | @name ks p v _ hl hv hb _ _ =>
      have hend : startsOutsideWord (v ++ []) = true := by
        by_cases hne : v = []
        · rw [hne]
          rfl
        · exact startsOutsideWord_append hv hne []
      refine .name (hl.replace fun hf => ?_) hv hend (by simp [IsTrimmed]) (by simp)
      rw [startsOutsideWord_append_of_ne_nil isWord_functionWord.1 _ (v ++ r)]
      exact hf
    | nothing _ _ _ _ => exact absurd rfl hg
  have hread := hnil.readLong
  rw [List.append_nil] at hread
  exact not_isLongForm_of_error hread

/-- With a name behind it, what is in front of a gap for a word is no long form either. -/
theorem not_isLongForm_append_name (h : Stops .word p r) :
    ¬ IsLongForm (p ++ Gap.name.filler.toList) := by
  cases h with
  | @word ks _ _ hl _ _ _ =>
    have hl : Leads ks p ([' '] ++ ['f']) := hl.replace fun _ => by decide
    have hstop : Stops .word (p ++ [' ']) ['f'] := by
      refine word_of_readWord? (hl.append .single) ?_ (by decide) ?_
      · simpa [IsTrimmed] using (by decide : isBlank 'f' = false)
      · rintro (⟨⟨⟩, _ | _⟩ | ⟨⟨⟩⟩ | ⟨⟨⟩⟩) <;> decide
    have hread := hstop.readLong
    rw [List.append_assoc] at hread
    exact not_isLongForm_of_error hread

/-- A text cannot go on at a place for one reason only. -/
theorem gap_unique (h : Stops g p r) (h' : Stops g' p r) : g = g' := by
  have hfilled {g : Gap} (h : Stops g p r) : IsLongForm (p ++ g.filler.toList) := by
    obtain ⟨⟨s, hs⟩, hp⟩ := h.filled
    exact isLongForm_of_parse hs hp
  have hwhole (h : Stops .nothing p r) : IsLongForm p := by
    have := hfilled h
    rwa [show p ++ Gap.nothing.filler.toList = p from List.append_nil p] at this
  cases g <;> cases g'
  case word.word | name.name | nothing.nothing => rfl
  case word.name => exact absurd (hfilled h') h.not_isLongForm_append_name
  case name.word => exact absurd (hfilled h) h'.not_isLongForm_append_name
  case word.nothing | name.nothing => exact absurd (hwhole h') (h.not_isLongForm (by simp))
  case nothing.word | nothing.name => exact absurd (hwhole h) (h'.not_isLongForm (by simp))

end Stops

/-- What is read of a text leads to where reading clauses ends. -/
theorem exists_leads (cs : List Char) :
    ∃ ks p r, cs = p ++ r ∧ Leads ks p r ∧ IsTrimmed r ∧
      ((∃ k ds, readClauses Category.all.length Category.all {} cs = .ok (k, ds) ∧
          trimStart ds = r ∧
          ∀ k : Clause, StartsWith k.keyword.toList r → k.category ∈ ks.map Clause.category) ∨
        readClauses Category.all.length Category.all {} cs = .error r ∧
          ∃ k : Clause, StartsWith k.keyword.toList r ∧ Contradictory (ks ++ [k])) := by
  have hall : Category.all.Nodup := by decide
  obtain ⟨ks, rest, ho, hks, -, hfree, hend⟩ := readClauses_ends Category.all.length hall le_rfl
    Constraints.collects_nil not_contradictory_nil (by simp) cs
  obtain ⟨q, rfl, -⟩ := ho.exists_append
  obtain ⟨w, hw, hrest⟩ := exists_append_trimStart rest
  refine ⟨ks, q ++ w, trimStart rest, by rw [List.append_assoc, ← hrest], ⟨⟨w, hw, ?_⟩, hks, hfree⟩,
    isTrimmed_trimStart rest, ?_⟩
  · rw [← hrest, List.append_assoc, ← hrest]
    exact ho
  · generalize readClauses Category.all.length Category.all {} (q ++ rest) = result at hend
    cases hend with
    | @stop k ds _ hds hnone =>
      refine Or.inl ⟨k, ds, rfl, hds, ?_⟩
      rintro c ⟨es, hc, hb⟩
      by_contra hnew
      have := readClause?_eq_some_iff.mpr ⟨mem_left_iff.mpr hnew, hc, hb⟩
      cases hnone.symm.trans this
    | @refuse c ds hc hcon =>
      obtain ⟨-, hc, hb⟩ := readClause?_eq_some_iff.mp hc
      exact Or.inr ⟨rfl, c, ⟨ds, hc, hb⟩, hcon⟩

/-- Where reading a long form fails, the text cannot go on. -/
theorem exists_stops (h : readLong cs = .error r) : ∃ p g, cs = p ++ r ∧ Stops g p r := by
  obtain ⟨ks, p, rest, rfl, hl, ht, hclauses⟩ := exists_leads cs
  have hlong : LongRead (p ++ rest) (.error r) := h ▸ longRead (p ++ rest)
  -- behind the clauses that are read, where reading them does not fail
  have hbehind {k : Constraints} {ds : List Char}
      (hread : readClauses Category.all.length Category.all {} (p ++ rest) = .ok (k, ds)) :
      trimStart ds = rest ∧
        ∀ k : Clause, StartsWith k.keyword.toList rest → k.category ∈ ks.map Clause.category := by
    rcases hclauses with ⟨k', ds', hread', hds, hno⟩ | ⟨herr, -⟩
    · obtain ⟨-, rfl⟩ := Prod.mk.inj (answer_unique hread hread')
      exact ⟨hds, hno⟩
    · cases hread.symm.trans herr
  cases hlong with
  | refused hread =>
    rcases hclauses with ⟨k, ds, hok, -⟩ | ⟨herr, k, hk, hcon⟩
    · cases hread.symm.trans hok
    · obtain rfl := Except.error.inj (hread.symm.trans herr)
      exact ⟨p, .word, rfl, .word_of_contradictory hl hk hcon⟩
  | noFunction hread hf =>
    obtain ⟨rfl, hno⟩ := hbehind hread
    exact ⟨p, .word, rfl, .word hl ht hf fun k hk => Or.inl (hno k hk)⟩
  | @noName _ _ es hread hds hes hn =>
    obtain ⟨rfl, -⟩ := hbehind hread
    obtain ⟨v, hv, hves⟩ := exists_append_trimStart es
    rw [hds] at hl ⊢
    rw [hves] at hl hes
    refine ⟨p ++ (functionWord ++ v), .name, ?_,
      .name hl hv hes (isTrimmed_trimStart es) hn⟩
    rw [List.append_assoc, List.append_assoc, ← hves]
  | @trailing _ _ es n _ hread hds hes hnr hn hne hb =>
    obtain ⟨rfl, -⟩ := hbehind hread
    obtain ⟨v, hv, hves⟩ := exists_append_trimStart es
    rw [hnr] at hves
    subst hves
    have hvne : v ≠ [] := by
      rintro rfl
      -- without a blank the name would go on with the word
      obtain ⟨c, n, rfl, hc⟩ := exists_cons_of_isIdentifier hn
      simp [startsOutsideWord, hc] at hes
    rw [hds] at hl ⊢
    have hl : Leads ks p (functionWord ++ (v ++ n)) := hl.replace fun hf => by
      rw [startsOutsideWord_append_of_ne_nil isWord_functionWord.1 _ (v ++ (n ++ r))]
      exact hf
    obtain ⟨⟨s, hs⟩, hp⟩ := hl.accepted hv hvne hn
    exact ⟨p ++ (functionWord ++ (v ++ n)), .nothing, by simp only [List.append_assoc],
      .nothing hs hp hne hb⟩

/-- What is refused is the rest of the text where reading it stops. -/
theorem parse_eq_error_iff {text rest : String} :
    parse text = .error (.malformedSpec rest) ↔ read text.toList = .error rest.toList := by
  cases h : read text.toList with
  | error e =>
    simp only [parse, h, Except.error.injEq, Fault.malformedSpec.injEq]
    rw [← String.toList_inj, String.toList_ofList]
  | ok q =>
    obtain ⟨k, name⟩ := q
    obtain ⟨s, -, -, hs⟩ := ofConstraints_of_read h
    simp only [parse, h, hs, reduceCtorEq]

/-- A text that is no name alone is refused from a place on at which it cannot go on. -/
theorem parse_of_stops {front rest : String} {g : Gap} (h : Stops g front.toList rest.toList)
    (hid : isIdentifier (front ++ rest).toList = false) :
    parse (front ++ rest) = .error (.malformedSpec rest) := by
  rw [parse_eq_error_iff, read, hid, if_neg Bool.false_ne_true, String.toList_append]
  exact h.readLong

/-- **A text is refused where it cannot go on.** It is refused from a place on if and only if it is
no name alone and it cannot go on there, for exactly one reason: behind clauses that go together a
word is missing, behind the word `function` the name is missing, or there is something behind a
whole specification. With what is missing in its place, the part in front of it is a
specification. -/
theorem parse_eq_error_iff_stops (text rest : String) :
    (parse text = .error (.malformedSpec rest) ↔
      isIdentifier text.toList = false ∧
        ∃ front, text = front ++ rest ∧ ∃! g, Stops g front.toList rest.toList) ∧
    ∀ (front : String) (g : Gap), Stops g front.toList rest.toList →
      ∃ s, parse (front ++ g.filler) = .ok s := by
  refine ⟨⟨fun h => ?_, ?_⟩, ?_⟩
  · rw [parse_eq_error_iff, read] at h
    split at h
    · cases h
    · next hid =>
      obtain ⟨p, g, hp, h⟩ := exists_stops h
      rw [← String.toList_ofList (l := p)] at hp h
      refine ⟨Bool.eq_false_iff.mpr hid, String.ofList p, ?_, g, h, fun g' h' => h'.gap_unique h⟩
      rw [← String.toList_inj, String.toList_append]
      exact hp
  · rintro ⟨hid, front, rfl, g, h, -⟩
    exact parse_of_stops h hid
  · intro front g h
    obtain ⟨⟨s, hs⟩, -⟩ := h.filled
    refine ⟨s, ?_⟩
    rw [← String.toList_append, String.ofList_toList] at hs
    exact hs

end Spec

end Conformance
