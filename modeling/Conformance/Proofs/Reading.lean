import Conformance.Proofs.Grammar
import Conformance.Proofs.Outcome

/-!
# Reading accepts the grammar

Reading clauses passes over exactly a beginning in the sense of `Spec.Opens`: over every one that
fits (`Spec.readClauses_of_opens`), and whatever reading comes to, there is one that it has passed
over (`Spec.readClauses_ends`). With the word `function` and the name behind the clauses
(`Spec.readLong_eq_ok_iff`), a text is read as a specification if and only if it denotes it
(`Spec.parse_of_denotes`, `Spec.denotes_of_parse`).
-/

namespace Conformance

open Text

namespace Text

theorem trimStart_trimStart (cs : List Char) : trimStart (trimStart cs) = trimStart cs := by
  obtain ⟨w, hw, h⟩ := exists_append_trimStart cs
  have := trimStart_append hw (trimStart cs)
  rw [← h] at this
  exact this.symm

end Text

namespace Spec

/-! ### The loop over clauses -/

variable {pending : List Category} {k : Constraints} {ks seen : List Clause} {cs rest : List Char}

theorem readClauses_succ_of_none (rounds : ℕ) (k : Constraints)
    (h : readClause? pending (trimStart cs) = none) :
    readClauses (rounds + 1) pending k cs = .ok (k, trimStart cs) := by
  simp only [readClauses, h]

theorem readClauses_succ_of_some (rounds : ℕ) (k : Constraints) {c : Clause} {ds : List Char}
    (h : readClause? pending (trimStart cs) = some (c, ds)) :
    readClauses (rounds + 1) pending k cs =
      if (k.add c).conflicting then .error (trimStart cs)
      else readClauses rounds (pending.erase c.category) (k.add c) ds := by
  simp only [readClauses, h]

/-- Where no clause can be read, reading clauses stops. -/
theorem readClauses_of_none (rounds : ℕ) {pending : List Category} (k : Constraints)
    (h : readClause? pending (trimStart cs) = none) :
    ∃ ds, readClauses rounds pending k cs = .ok (k, ds) ∧ trimStart ds = trimStart cs := by
  cases rounds with
  | zero => exact ⟨cs, rfl, rfl⟩
  | succ rounds => exact ⟨_, readClauses_succ_of_none rounds k h, trimStart_trimStart cs⟩

/-- Clauses of pending categories that do not contradict each other are passed over, one in each
round. -/
theorem readClauses_of_opens (h : Opens rest ks cs) (rounds : ℕ) (hk : k.Collects seen)
    (hd : ((seen ++ ks).map Clause.category).Nodup) (hc : ¬ Contradictory (seen ++ ks))
    (hp : ∀ c ∈ ks, c.category ∈ pending) :
    ∃ k', k'.Collects (seen ++ ks) ∧
      readClauses (ks.length + rounds) pending k cs =
        readClauses rounds (pending.diff (ks.map Clause.category)) k' rest := by
  induction h generalizing seen pending k with
  | nil => exact ⟨k, by simpa using hk, by simp⟩
  | @cons c ks w cs hw hb ho ih =>
    rw [List.append_cons] at hd hc ⊢
    have hnew : c.category ∉ seen.map Clause.category := by
      rw [List.append_assoc, List.map_append, List.nodup_append] at hd
      exact fun hmem => hd.2.2 _ hmem _ (by simp) rfl
    have hne : ∀ d ∈ ks, d.category ≠ c.category := by
      rw [List.map_append, List.nodup_append] at hd
      exact fun d hd' he => hd.2.2 _ (by simp) _ (List.mem_map_of_mem hd') he.symm
    have hadd := hk.add hnew
    have hread :
        readClause? pending (trimStart (w ++ (c.keyword.toList ++ cs))) = some (c, cs) := by
      rw [trimStart_append hw, trimStart_keyword_append]
      exact readClause?_eq_some_iff.mpr ⟨hp c List.mem_cons_self, rfl, hb⟩
    have hfree : (k.add c).conflicting = false :=
      hadd.conflicting_eq_false fun hcon => hc (hcon.mono (List.subset_append_left _ _))
    have hleft : ∀ d ∈ ks, d.category ∈ pending.erase c.category := fun d hd' =>
      (List.mem_erase_of_ne (hne d hd')).mpr (hp d (List.mem_cons_of_mem _ hd'))
    obtain ⟨k', hk', he⟩ := ih hadd hd hc hleft
    refine ⟨k', hk', ?_⟩
    rw [List.length_cons, Nat.add_right_comm, readClauses_succ_of_some _ _ hread, hfree,
      if_neg Bool.false_ne_true, he, List.map_cons, List.diff_cons]

/-- What reading clauses comes to behind the clauses `ks`, while the categories `left` are
pending. -/
inductive Ends (left : List Category) (ks : List Clause) (rest : List Char) :
    Except (List Char) (Constraints × List Char) → Prop where
  /-- It stops where no clause of one of the categories stands. -/
  | stop {k : Constraints} {cs : List Char} : k.Collects ks → trimStart cs = trimStart rest →
      readClause? left (trimStart rest) = none → Ends left ks rest (.ok (k, cs))
  /-- It fails at a clause that contradicts the others. -/
  | refuse {c : Clause} {ds : List Char} : readClause? left (trimStart rest) = some (c, ds) →
      Contradictory (ks ++ [c]) → Ends left ks rest (.error (trimStart rest))

/-- Reading clauses passes over clauses of different categories that do not contradict each other,
and ends behind them. -/
theorem readClauses_ends (rounds : ℕ) (hn : pending.Nodup) (hr : pending.length ≤ rounds)
    (hk : k.Collects seen) (hs : ¬ Contradictory seen) (hp : ∀ c ∈ seen, c.category ∉ pending)
    (cs : List Char) :
    ∃ ks rest, Opens rest ks cs ∧ (ks.map Clause.category).Nodup ∧
      (∀ c ∈ ks, c.category ∈ pending) ∧ ¬ Contradictory (seen ++ ks) ∧
      Ends (pending.diff (ks.map Clause.category)) (seen ++ ks) rest
        (readClauses rounds pending k cs) := by
  induction rounds generalizing pending seen k cs with
  | zero =>
    obtain rfl := List.length_eq_zero_iff.mp (Nat.le_zero.mp hr)
    exact ⟨[], cs, Opens.nil, by simp, by simp, by simpa using hs,
      Ends.stop (by simpa using hk) rfl rfl⟩
  | succ rounds ih =>
    cases hread : readClause? pending (trimStart cs) with
    | none =>
      rw [readClauses_succ_of_none _ _ hread]
      exact ⟨[], cs, Opens.nil, by simp, by simp, by simpa using hs,
        Ends.stop (by simpa using hk) (trimStart_trimStart cs) hread⟩
    | some p =>
      obtain ⟨c, ds⟩ := p
      obtain ⟨hc, hcs, hb⟩ := readClause?_eq_some_iff.mp hread
      have hadd : (k.add c).Collects (seen ++ [c]) := hk.add fun hmem => by
        obtain ⟨d, hd, hdc⟩ := List.mem_map.mp hmem
        exact hp d hd (hdc ▸ hc)
      rw [readClauses_succ_of_some _ _ hread]
      split
      · next hcon =>
        exact ⟨[], cs, Opens.nil, by simp, by simp, by simpa using hs,
          Ends.refuse hread (by simpa using hadd.conflicting_iff.mp hcon)⟩
      · next hcon =>
        have hlen : (pending.erase c.category).length ≤ rounds := by
          rw [List.length_erase_of_mem hc]
          omega
        obtain ⟨ks, rest, ho, hks, hin, hfree, hend⟩ := ih (hn.erase _) hlen hadd
          (fun h => hcon (hadd.conflicting_iff.mpr h)) (fun d hd hmem => by
            rcases List.mem_append.mp hd with hd | hd
            · exact hp d hd (List.mem_of_mem_erase hmem)
            · rw [List.mem_singleton.mp hd] at hmem
              exact hn.not_mem_erase hmem) ds
        rw [← List.append_cons] at hfree hend
        obtain ⟨w, hw, hwcs⟩ := exists_append_trimStart cs
        refine ⟨c :: ks, rest, ?_, ?_, ?_, hfree, ?_⟩
        · rw [hwcs, hcs]
          exact Opens.cons hw hb ho
        · rw [List.map_cons, List.nodup_cons]
          refine ⟨fun hmem => ?_, hks⟩
          obtain ⟨d, hd, hdc⟩ := List.mem_map.mp hmem
          exact hn.not_mem_erase (hdc ▸ hin d hd)
        · intro d hd
          rcases List.mem_cons.mp hd with rfl | hd
          · exact hc
          · exact List.mem_of_mem_erase (hin d hd)
        · rw [List.map_cons, List.diff_cons]
          exact hend

/-! ### The long form -/

/-- The word `function` is read as a word, and the blanks behind it are passed over. -/
theorem readWord?_functionWord {v name : List Char} (hv : AllBlank v) (hne : v ≠ []) :
    readWord? functionWord (functionWord ++ (v ++ name)) = some (v ++ name) :=
  readWord?_eq_some_iff.mpr ⟨rfl, startsOutsideWord_append hv hne name⟩

/-- A long form is read where the word `function`, blanks and a name stand behind the clauses. -/
theorem readLong_eq_ok_iff {name : List Char} :
    readLong cs = .ok (k, name) ↔
      ∃ ds v, readClauses Category.all.length Category.all {} cs = .ok (k, ds) ∧
        trimStart ds = functionWord ++ (v ++ name) ∧ AllBlank v ∧ v ≠ [] ∧
        isIdentifier name = true := by
  constructor
  · intro h
    simp only [readLong] at h
    cases hread : readClauses Category.all.length Category.all {} cs with
    | error e => rw [hread] at h; cases h
    | ok p =>
      obtain ⟨k', ds⟩ := p
      rw [hread] at h
      simp only [ok_bind] at h
      cases hf : readWord? functionWord (trimStart ds) with
      | none => rw [hf] at h; cases h
      | some es =>
        rw [hf] at h
        obtain ⟨hds, hb⟩ := readWord?_eq_some_iff.mp hf
        obtain ⟨v, hv, hes⟩ := exists_append_trimStart es
        cases hi : readIdentifier? (trimStart es) with
        | none => simp only [hi] at h; cases h
        | some q =>
          obtain ⟨n, r⟩ := q
          obtain ⟨hn, hid, -⟩ := readIdentifier?_eq_some hi
          cases r with
          | cons c r => simp only [hi] at h; cases h
          | nil =>
            simp only [hi, Except.ok.injEq, Prod.mk.injEq] at h
            obtain ⟨rfl, rfl⟩ := h
            rw [hn, List.append_nil] at hes
            refine ⟨ds, v, rfl, by rw [hds, ← hes], hv, ?_, hid⟩
            rintro rfl
            -- without a blank the name would go on with the word
            obtain ⟨c, cs, rfl, hc⟩ := exists_cons_of_isIdentifier hid
            simp [hes, startsOutsideWord, hc] at hb
  · rintro ⟨ds, v, hread, hds, hv, hne, hn⟩
    simp only [readLong, hread, ok_bind, hds, readWord?_functionWord hv hne,
      trimStart_append hv, trimStart_of_isIdentifier hn, readIdentifier?_of_isIdentifier hn]

/-- Where the word `function` stands, reading clauses stops. -/
theorem readClauses_functionWord (rounds : ℕ) (pending : List Category) (k : Constraints)
    {u v : List Char} (name : List Char) (hu : AllBlank u) (hv : AllBlank v) (hne : v ≠ []) :
    ∃ ds, readClauses rounds pending k (u ++ (functionWord ++ (v ++ name))) = .ok (k, ds) ∧
      trimStart ds = functionWord ++ (v ++ name) := by
  have ht : trimStart (u ++ (functionWord ++ (v ++ name))) = functionWord ++ (v ++ name) :=
    trimStart_append hu _
  have hnone : readClause? pending (trimStart (u ++ (functionWord ++ (v ++ name)))) = none := by
    rw [ht]
    exact readClause?_functionWord_append pending (startsOutsideWord_append hv hne name)
  obtain ⟨ds, hds, htrim⟩ := readClauses_of_none rounds k hnone
  exact ⟨ds, hds, htrim.trans ht⟩

/-- Clauses of different categories are no more than there are categories. -/
theorem length_le_of_nodup (h : (ks.map Clause.category).Nodup) :
    ks.length ≤ Category.all.length := by
  rw [← List.length_map (f := Clause.category)]
  exact (h.subperm fun c _ => Category.mem_all c).length_le

/-! ### Reading and denoting -/

/-- A text that denotes clauses and a name is read as these. -/
theorem read_of_denotes {name : List Char} (h : Denotes cs ks name) :
    ∃ k : Constraints, k.Collects ks ∧ read cs = .ok (k, name) := by
  cases h with
  | bare hn => exact ⟨{}, Constraints.collects_nil, by rw [read, if_pos hn]⟩
  | @long w ds name ks hw hs hd hc =>
    obtain ⟨u, v, hu, hv, hne, ho⟩ := hs.opens hw
    obtain ⟨n, hlen⟩ := Nat.exists_eq_add_of_le (length_le_of_nodup hd)
    obtain ⟨k, hk, hread⟩ := readClauses_of_opens ho n Constraints.collects_nil hd hc
      fun c _ => Category.mem_all c.category
    obtain ⟨es, hstop, hes⟩ := readClauses_functionWord n
      (Category.all.diff (ks.map Clause.category)) k name hu hv hne
    have hnot : isIdentifier (w ++ ds) = false := by
      obtain ⟨c, hmem, hb⟩ := hs.exists_blank
      exact isIdentifier_eq_false (List.mem_append_right w hmem) hb
    refine ⟨k, hk, ?_⟩
    rw [read, hnot, if_neg Bool.false_ne_true]
    refine readLong_eq_ok_iff.mpr ⟨es, v, ?_, hes, hv, hne, hs.isIdentifier_name⟩
    rw [hlen, hread, hstop]

/-- A text that is read denotes clauses that amount to the constraints, and the name. -/
theorem denotes_of_read {name : List Char} (h : read cs = .ok (k, name)) :
    ∃ ks, k.Collects ks ∧ Denotes cs ks name := by
  rw [read] at h
  split at h
  · next hn =>
    simp only [Except.ok.injEq, Prod.mk.injEq] at h
    obtain ⟨rfl, rfl⟩ := h
    exact ⟨[], Constraints.collects_nil, Denotes.bare hn⟩
  · obtain ⟨ds, v, hread, hds, hv, hne, hn⟩ := readLong_eq_ok_iff.mp h
    have hall : Category.all.Nodup := by decide
    obtain ⟨ks, rest, ho, hks, -, hfree, hend⟩ := readClauses_ends Category.all.length hall le_rfl
      Constraints.collects_nil not_contradictory_nil (by simp) cs
    rw [hread] at hend
    cases hend with
    | stop hk hrest _ =>
      obtain ⟨w, es, hw, hs, rfl⟩ := ho.sentence (hrest ▸ hds) hv hne hn
      exact ⟨ks, hk, Denotes.long hw hs hks hfree⟩

/-- What a text denotes makes a specification: the name is an identifier. -/
theorem Denotes.isIdentifier_name {name : List Char} (h : Denotes cs ks name) :
    isIdentifier name = true := by
  cases h with
  | bare hn => exact hn
  | long _ hs _ _ => exact hs.isIdentifier_name

/-- What a text denotes makes a specification: the clauses do not contradict each other. -/
theorem Denotes.not_contradictory {name : List Char} (h : Denotes cs ks name) :
    ¬ Contradictory ks := by
  cases h with
  | bare _ => exact not_contradictory_nil
  | long _ _ _ hc => exact hc

/-- What is read makes a specification. -/
theorem ofConstraints_of_read {name : List Char} (h : read cs = .ok (k, name)) :
    ∃ s : Spec, s.name.toList = name ∧ s.toConstraints = k ∧
      ofConstraints (String.ofList name) k = .ok s := by
  obtain ⟨ks, hk, hd⟩ := denotes_of_read h
  have hn : isIdentifier (String.ofList name).toList = true := by
    rw [String.toList_ofList]
    exact hd.isIdentifier_name
  have hc := hk.conflicting_eq_false hd.not_contradictory
  exact ⟨⟨k, String.ofList name, hn, hc⟩, String.toList_ofList, rfl, by
    rw [ofConstraints, dif_pos hn, dif_pos hc]⟩

/-- A text that denotes clauses and a name is read as a specification with that name and with the
constraints that the clauses amount to. -/
theorem exists_parse_of_denotes {text : String} {name : List Char}
    (h : Denotes text.toList ks name) :
    ∃ s : Spec, s.name.toList = name ∧ s.Collects ks ∧ parse text = .ok s := by
  obtain ⟨k, hk, hread⟩ := read_of_denotes h
  obtain ⟨s, hname, rfl, hs⟩ := ofConstraints_of_read hread
  exact ⟨s, hname, hk, by simp only [parse, hread, hs]⟩

/-- Name and constraints determine a specification. -/
theorem eq_of_collects {s t : Spec} (hname : s.name = t.name) (hs : s.Collects ks)
    (ht : t.Collects ks) : s = t := by
  obtain ⟨k, name, _, _⟩ := s
  obtain ⟨l, name', _, _⟩ := t
  obtain rfl : name = name' := hname
  obtain rfl : k = l := hs.unique ht
  rfl

/-- A text that denotes the name and the constraints of a specification is read as it. -/
theorem parse_of_denotes {text : String} {s : Spec} (h : Denotes text.toList ks s.name.toList)
    (hs : s.Collects ks) : parse text = .ok s := by
  obtain ⟨t, hname, ht, hparse⟩ := exists_parse_of_denotes h
  rw [hparse, eq_of_collects (String.toList_inj.mp hname) ht hs]

/-- A text that is read as a specification denotes its name and constraints. -/
theorem denotes_of_parse {text : String} {s : Spec} (h : parse text = .ok s) :
    ∃ ks, s.Collects ks ∧ Denotes text.toList ks s.name.toList := by
  simp only [parse] at h
  cases hread : read text.toList with
  | error e => rw [hread] at h; cases h
  | ok p =>
    obtain ⟨k, name⟩ := p
    obtain ⟨t, rfl, rfl, ht⟩ := ofConstraints_of_read hread
    simp only [hread, ht, Except.ok.injEq] at h
    subst h
    exact denotes_of_read hread

/-- A text is read as a specification if and only if it denotes it: it is a name alone or a long
form, and the specification has this name and the constraints that the clauses amount to. -/
theorem parse_eq_ok_iff_denotes (text : String) (s : Spec) :
    parse text = .ok s ↔ ∃ ks, Denotes text.toList ks s.name.toList ∧ s.Collects ks := by
  constructor
  · intro h
    obtain ⟨ks, hks, hd⟩ := denotes_of_parse h
    exact ⟨ks, hd, hks⟩
  · rintro ⟨ks, hd, hks⟩
    exact parse_of_denotes hd hks

end Spec

end Conformance
