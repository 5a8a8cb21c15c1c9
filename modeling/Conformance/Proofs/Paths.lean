import Conformance.ImportPath
import Conformance.Proofs.Outcome

/-!
# Dotted paths and colon paths

A dotted path does not say where the module ends, a path with a colon does. What a split of a
dotted path leads to is what the path with a colon in that place leads to, so the question is only
which split counts.

`World.LeadsNowhere` says of a module name and attributes that they lead to nothing: there is no
such module, an attribute cannot be read, or the last one is null. A split decides
(`World.Decides`) if it does not lead nowhere while all splits with a longer module name do. A
dotted path leads to whatever the split that decides leads to (`World.importDotted?_of_decides`),
and to nothing if no split decides (`World.decides_or_leadsNowhere`).
-/

namespace Conformance

open Text

/-! ### Texts joined by dots -/

namespace ImportPath

/-- The components with dots between them. -/
def joined (parts : List String) : String := ".".intercalate parts

variable {parts : List String}

theorem toList_joined (parts : List String) :
    (joined parts).toList = joinWith '.' (parts.map String.toList) := by
  rw [joined, String.toList_intercalate]
  exact intercalate_eq_joinWith '.' _

/-- Components without dots are found again. -/
theorem components_joined (hne : parts ≠ []) (hdot : ∀ a ∈ parts, '.' ∉ a.toList) :
    components (joined parts) = parts :=
  piecesAt_intercalate hne hdot

theorem not_mem_joined {c : Char} (hc : c ≠ '.') (h : ∀ a ∈ parts, c ∉ a.toList) :
    c ∉ (joined parts).toList := by
  rw [toList_joined]
  exact not_mem_joinWith hc (by simpa using h)

/-- Two or more components without colons, joined by dots, are a dotted path. -/
theorem ofString_joined (hlen : 2 ≤ parts.length) (hdot : ∀ a ∈ parts, '.' ∉ a.toList)
    (hcolon : ∀ a ∈ parts, ':' ∉ a.toList) : ofString (joined parts) = .dotted parts := by
  have hne : parts ≠ [] := by rintro rfl; simp at hlen
  have hc : ':' ∉ (joined parts).toList := not_mem_joined (by decide) hcolon
  have hd : '.' ∈ (joined parts).toList := by
    rw [toList_joined]
    exact mem_joinWith (by simpa using hlen)
  simp [ofString, hc, hd, components_joined hne hdot]

/-- The path with a colon behind so many components. -/
def withColon (parts : List String) (k : Nat) : String :=
  joined (parts.take k) ++ ":" ++ joined (parts.drop k)

/-- A path with a colon behind some components, but not behind all, is divided there. -/
theorem ofString_withColon {k : Nat} (hk : k < parts.length)
    (hdot : ∀ a ∈ parts, '.' ∉ a.toList) (hcolon : ∀ a ∈ parts, ':' ∉ a.toList) :
    ofString (withColon parts k) = .colon (joined (parts.take k)) (parts.drop k) := by
  have hc : ':' ∉ (joined (parts.take k)).toList :=
    not_mem_joined (by decide) fun a ha => hcolon a (List.mem_of_mem_take ha)
  have hfront : ∀ c ∈ (joined (parts.take k)).toList, (c != ':') = true := fun c h =>
    bne_iff_ne.mpr fun hcc => hc (hcc ▸ h)
  have hl : (withColon parts k).toList =
      (joined (parts.take k)).toList ++ ':' :: (joined (parts.drop k)).toList := by
    simp [withColon]
  have hrest : parts.drop k ≠ [] := by simpa using hk
  simp [ofString, hl, List.takeWhile_append_of_pos hfront, List.dropWhile_append_of_pos hfront,
    components_joined hrest fun a ha => hdot a (List.mem_of_mem_drop ha)]

end ImportPath

open ImportPath

namespace World

variable (w : World)

/-! ### What a split leads to -/

/-- The module name and the attributes lead to nothing. -/
inductive LeadsNowhere (moduleName : String) (attributes : List String) : Prop where
  /-- There is no such module. -/
  | noModule : w.importModule? moduleName = none → LeadsNowhere moduleName attributes
  /-- One of the attributes cannot be read. -/
  | unreadable {start v : Value} {before after : List String} {name : String} {c : Complaint} :
      w.importModule? moduleName = some start → attributes = before ++ name :: after →
      w.follow start before = .ok v → w.read v name = .error c → isImportFault c = true →
      LeadsNowhere moduleName attributes
  /-- The last attribute is null. -/
  | null {start : Value} : w.importModule? moduleName = some start →
      w.follow start attributes = .ok .null → LeadsNowhere moduleName attributes

variable {w}

/-- Following attributes fails where one of them cannot be read on what those before lead to. -/
theorem follow_eq_error_iff {start : Value} {attributes : List String} {c : Complaint} :
    w.follow start attributes = .error c ↔
      ∃ before name after v, attributes = before ++ name :: after ∧
        w.follow start before = .ok v ∧ w.read v name = .error c := by
  induction attributes generalizing start with
  | nil =>
    refine iff_of_false (fun h => by cases h) ?_
    rintro ⟨before, name, after, v, hl, -⟩
    exact List.append_ne_nil_of_right_ne_nil before (List.cons_ne_nil name after) hl.symm
  | cons a attributes ih =>
    cases ha : w.read start a with
    | error x =>
      have hf : w.follow start (a :: attributes) = .error x := by
        rw [follow, List.foldlM_cons, ha, error_bind]
      rw [hf]
      constructor
      · intro h
        obtain rfl := Except.error.inj h
        exact ⟨[], a, attributes, start, rfl, rfl, ha⟩
      · rintro ⟨before, name, after, v, hl, hv, hc⟩
        cases before with
        | nil =>
          obtain ⟨rfl, rfl⟩ := List.cons.inj hl
          obtain rfl := Except.ok.inj hv
          exact ha.symm.trans hc
        | cons b before =>
          -- the first attribute cannot be read, so that no others can be followed
          obtain ⟨rfl, rfl⟩ := List.cons.inj hl
          rw [follow, List.foldlM_cons, ha, error_bind] at hv
          cases hv
    | ok u =>
      have hf (rest : List String) : w.follow start (a :: rest) = w.follow u rest := by
        rw [follow, List.foldlM_cons, ha, ok_bind]
        rfl
      rw [hf, ih]
      constructor
      · rintro ⟨before, name, after, v, rfl, hv, hc⟩
        exact ⟨a :: before, name, after, v, rfl, (hf before).trans hv, hc⟩
      · rintro ⟨before, name, after, v, hl, hv, hc⟩
        cases before with
        | nil =>
          obtain ⟨rfl, rfl⟩ := List.cons.inj hl
          obtain rfl := Except.ok.inj hv
          cases ha.symm.trans hc
        | cons b before =>
          obtain ⟨rfl, rfl⟩ := List.cons.inj hl
          exact ⟨before, name, after, v, rfl, (hf before).symm.trans hv, hc⟩

theorem importAttribute?_eq_none_iff {moduleName : String} {attributes : List String} :
    w.importAttribute? moduleName attributes = .ok none ↔
      w.LeadsNowhere moduleName attributes := by
  cases hm : w.importModule? moduleName with
  | none =>
    rw [importAttribute?, hm]
    exact iff_of_true rfl (.noModule hm)
  | some start =>
    rw [importAttribute?, hm]
    constructor
    · intro h
      cases hf : w.follow start attributes with
      | ok target =>
        cases target <;> simp only [hf] at h <;> first | exact .null hm hf | cases h
      | error c =>
        obtain ⟨before, name, after, v, hl, hv, hc⟩ := follow_eq_error_iff.mp hf
        simp only [hf] at h
        split at h
        · next hk => exact .unreadable hm hl hv hc hk
        · cases h
    · intro h
      cases h with
      | noModule h => cases hm.symm.trans h
      | unreadable h hl hv hc hk =>
        obtain rfl := Option.some.inj (hm.symm.trans h)
        simp only [follow_eq_error_iff.mpr ⟨_, _, _, _, hl, hv, hc⟩, hk, if_true]
      | null h hf =>
        obtain rfl := Option.some.inj (hm.symm.trans h)
        simp only [hf]

/-! ### Which split decides -/

variable (w) in
/-- The split behind `k` components leads nowhere. -/
def SplitLeadsNowhere (parts : List String) (k : Nat) : Prop :=
  w.LeadsNowhere (joined (parts.take k)) (parts.drop k)

variable (w) in
/-- The split behind `k` components does not lead nowhere, and every split with a longer module
name does. -/
structure Decides (parts : List String) (k : Nat) : Prop where
  /-- There is a module name. -/
  pos : 1 ≤ k
  /-- There is an attribute. -/
  lt : k < parts.length
  /-- The split does not lead nowhere. -/
  leads : ¬ w.SplitLeadsNowhere parts k
  /-- The splits with longer module names do. -/
  longer : ∀ j, k < j → j < parts.length → w.SplitLeadsNowhere parts j

theorem splits_succ_succ (n : Nat) : splits (n + 2) = (n + 1) :: splits (n + 1) := by
  have hlen : 1 ≤ (List.range (n + 1)).length := by simp
  rw [splits, List.range_succ, List.drop_append_of_le_length hlen, List.reverse_append]
  rfl

theorem splitAfter_eq (parts : List String) (k : Nat) :
    splitAfter parts k = (joined (parts.take k), parts.drop k) := rfl

/-- A split that leads nowhere is passed over. -/
theorem firstImport?_cons_of_leadsNowhere {moduleName : String} {attributes : List String}
    {rest : List (String × List String)} (h : w.LeadsNowhere moduleName attributes) :
    w.firstImport? ((moduleName, attributes) :: rest) = w.firstImport? rest := by
  rw [firstImport?, importAttribute?_eq_none_iff.mpr h, ok_bind]

/-- Any other split ends the search. -/
theorem firstImport?_cons_of_not_leadsNowhere {moduleName : String} {attributes : List String}
    {rest : List (String × List String)} (h : ¬ w.LeadsNowhere moduleName attributes) :
    w.firstImport? ((moduleName, attributes) :: rest) =
      w.importAttribute? moduleName attributes := by
  rw [firstImport?]
  cases hr : w.importAttribute? moduleName attributes with
  | error c => rfl
  | ok target =>
    cases target with
    | none => exact absurd (importAttribute?_eq_none_iff.mp hr) h
    | some target => rfl

/-- Among the splits with fewer than `m` components in front, the first one that does not lead
nowhere counts. -/
theorem firstImport?_splits (parts : List String) (m : Nat) :
    (∀ j, 1 ≤ j → j < m → w.SplitLeadsNowhere parts j) ∧
        w.firstImport? ((splits m).map (splitAfter parts)) = .ok none ∨
      ∃ k, 1 ≤ k ∧ k < m ∧ ¬ w.SplitLeadsNowhere parts k ∧
        (∀ j, k < j → j < m → w.SplitLeadsNowhere parts j) ∧
        w.firstImport? ((splits m).map (splitAfter parts)) =
          w.importAttribute? (joined (parts.take k)) (parts.drop k) := by
  match m with
  | 0 | 1 => exact Or.inl ⟨fun j h1 h2 => by omega, rfl⟩
  | m + 2 =>
    rw [splits_succ_succ, List.map_cons, splitAfter_eq]
    by_cases hm : w.SplitLeadsNowhere parts (m + 1)
    · have hlonger {j k : Nat} (h : ∀ j, k < j → j < m + 1 → w.SplitLeadsNowhere parts j)
          (hk : k < j) (hj : j < m + 2) : w.SplitLeadsNowhere parts j := by
        rcases Nat.lt_succ_iff_lt_or_eq.mp hj with hj | rfl
        · exact h j hk hj
        · exact hm
      rw [firstImport?_cons_of_leadsNowhere hm]
      rcases firstImport?_splits parts (m + 1) with ⟨hall, hr⟩ | ⟨k, h1, hk, hleads, hall, hr⟩
      · exact Or.inl ⟨fun j h1 hj => hlonger (k := 0) (fun j => hall j) h1 hj, hr⟩
      · exact Or.inr ⟨k, h1, by omega, hleads, fun j => hlonger hall, hr⟩
    · refine Or.inr ⟨m + 1, by omega, by omega, hm, fun j h1 h2 => by omega, ?_⟩
      exact firstImport?_cons_of_not_leadsNowhere hm

/-- Either all splits of a dotted path lead nowhere, and so does the path, or one decides. -/
theorem decides_or_leadsNowhere (parts : List String) :
    (∀ j, 1 ≤ j → j < parts.length → w.SplitLeadsNowhere parts j) ∧
        w.importDotted? parts = .ok none ∨
      ∃ k, w.Decides parts k ∧
        w.importDotted? parts = w.importAttribute? (joined (parts.take k)) (parts.drop k) := by
  refine (firstImport?_splits parts parts.length).imp_right ?_
  rintro ⟨k, h1, hk, hleads, hlonger, hr⟩
  exact ⟨k, ⟨h1, hk, hleads, hlonger⟩, hr⟩

/-- At most one split decides. -/
theorem Decides.unique {parts : List String} {j k : Nat} (hj : w.Decides parts j)
    (hk : w.Decides parts k) : j = k := by
  rcases Nat.lt_trichotomy j k with h | h | h
  · exact absurd (hj.longer k h hk.lt) hk.leads
  · exact h
  · exact absurd (hk.longer j h hj.lt) hj.leads

/-- A dotted path leads to what the split that decides leads to. -/
theorem importDotted?_of_decides {parts : List String} {k : Nat} (h : w.Decides parts k) :
    w.importDotted? parts = w.importAttribute? (joined (parts.take k)) (parts.drop k) := by
  rcases w.decides_or_leadsNowhere parts with ⟨hall, -⟩ | ⟨j, hj, hr⟩
  · exact absurd (hall k h.pos h.lt) h.leads
  · rw [hr, hj.unique h]

/-! ### Paths -/

section

variable {parts : List String} (hlen : 2 ≤ parts.length) (hdot : ∀ a ∈ parts, '.' ∉ a.toList)
  (hcolon : ∀ a ∈ parts, ':' ∉ a.toList)

include hdot hcolon

/-- What a path with a colon names. -/
theorem importClass?_withColon {k : Nat} (hk : k < parts.length) :
    w.importClass? (.str (withColon parts k)) =
      w.importAlong? (.colon (joined (parts.take k)) (parts.drop k)) := by
  rw [importClass?, pathOf?, ok_bind, ofString_withColon hk hdot hcolon]

include hlen

/-- What a dotted path names. -/
theorem importClass?_joined :
    w.importClass? (.str (joined parts)) = w.importAlong? (.dotted parts) := by
  rw [importClass?, pathOf?, ok_bind, ofString_joined hlen hdot hcolon]

/-- A dotted path names what the path names that has a colon where the split decides. -/
theorem importClass?_joined_of_decides {k : Nat} (h : w.Decides parts k) :
    w.importClass? (.str (joined parts)) = w.importClass? (.str (withColon parts k)) := by
  rw [importClass?_joined hlen hdot hcolon, importClass?_withColon hdot hcolon h.lt]
  simp only [importAlong?, importTarget?, importDotted?_of_decides h]

end

/-- A path with a colon that names something leads somewhere. -/
theorem not_leadsNowhere_of_importAlong? {moduleName : String} {attributes : List String}
    {c : Value} (h : w.importAlong? (.colon moduleName attributes) = .ok (some c)) :
    ¬ w.LeadsNowhere moduleName attributes := by
  intro hn
  rw [importAlong?, importTarget?, importAttribute?_eq_none_iff.mpr hn, ok_bind] at h
  cases h

/-- **Dotted paths agree with paths that have a colon.** A dotted path names a class if and only if
the path does that has a colon behind some of its components, and all splits with a longer module
name lead nowhere. A split that does not lead nowhere, while all with a longer module name do,
decides what the path names, also if that is no class. If all splits lead nowhere, the path names
nothing. -/
theorem importClass?_joined_iff (w : World) {parts : List String} (hlen : 2 ≤ parts.length)
    (hdot : ∀ a ∈ parts, '.' ∉ a.toList) (hcolon : ∀ a ∈ parts, ':' ∉ a.toList) :
    (∀ c, w.importClass? (.str (joined parts)) = .ok (some c) ↔
      ∃ k, 1 ≤ k ∧ k < parts.length ∧
        w.importClass? (.str (withColon parts k)) = .ok (some c) ∧
        ∀ j, k < j → j < parts.length → w.LeadsNowhere (joined (parts.take j)) (parts.drop j)) ∧
    (∀ k, 1 ≤ k → k < parts.length →
      ¬ w.LeadsNowhere (joined (parts.take k)) (parts.drop k) →
      (∀ j, k < j → j < parts.length → w.LeadsNowhere (joined (parts.take j)) (parts.drop j)) →
      w.importClass? (.str (joined parts)) = w.importClass? (.str (withColon parts k))) ∧
    ((∀ j, 1 ≤ j → j < parts.length → w.LeadsNowhere (joined (parts.take j)) (parts.drop j)) →
      w.importClass? (.str (joined parts)) = .ok none) := by
  refine ⟨fun c => ⟨fun h => ?_, ?_⟩, fun k h1 hk hleads hlonger => ?_, fun hall => ?_⟩
  · rcases w.decides_or_leadsNowhere parts with ⟨-, hr⟩ | ⟨k, hk, -⟩
    · rw [importClass?_joined hlen hdot hcolon, importAlong?, importTarget?, hr, ok_bind] at h
      cases h
    · rw [importClass?_joined_of_decides hlen hdot hcolon hk] at h
      exact ⟨k, hk.pos, hk.lt, h, hk.longer⟩
  · rintro ⟨k, h1, hk, hc, hlonger⟩
    have hleads : ¬ w.SplitLeadsNowhere parts k :=
      not_leadsNowhere_of_importAlong? ((importClass?_withColon hdot hcolon hk).symm.trans hc)
    rw [importClass?_joined_of_decides hlen hdot hcolon ⟨h1, hk, hleads, hlonger⟩]
    exact hc
  · exact importClass?_joined_of_decides hlen hdot hcolon ⟨h1, hk, hleads, hlonger⟩
  · rcases w.decides_or_leadsNowhere parts with ⟨-, hr⟩ | ⟨k, hk, -⟩
    · rw [importClass?_joined hlen hdot hcolon, importAlong?, importTarget?, hr, ok_bind]
      rfl
    · exact absurd (hall k hk.pos hk.lt) hk.leads

/-- A world where the path `a.b.T` can be read in two ways: the module `a.b` has null under `T`, and
the attribute `b` of the module `a` is a module that has a class there. -/
def twoReadings : World where
  modules := [⟨"a.b", [("T", .null)]⟩, ⟨"a", [("b", .module "c")]⟩,
    ⟨"c", [("T", .cls (.builtin .int))]⟩]

/-- The longer module name leads nowhere, so that the shorter one decides. -/
theorem importClass?_twoReadings :
    2 ≤ ["a", "b", "T"].length ∧ (∀ a ∈ ["a", "b", "T"], '.' ∉ a.toList) ∧
      (∀ a ∈ ["a", "b", "T"], ':' ∉ a.toList) ∧
      twoReadings.LeadsNowhere "a.b" ["T"] ∧
      twoReadings.importClass? (.str "a:b.T") = .ok (some (.cls (.builtin .int))) ∧
      twoReadings.importClass? (.str "a.b.T") = .ok (some (.cls (.builtin .int))) := by
  have hlen : 2 ≤ ["a", "b", "T"].length := by decide
  have hdot : ∀ a ∈ ["a", "b", "T"], '.' ∉ a.toList := by decide
  have hcolon : ∀ a ∈ ["a", "b", "T"], ':' ∉ a.toList := by decide
  have hnull : twoReadings.LeadsNowhere "a.b" ["T"] := .null rfl rfl
  have hclass : twoReadings.importClass? (.str "a:b.T") = .ok (some (.cls (.builtin .int))) := rfl
  refine ⟨hlen, hdot, hcolon, hnull, hclass, ?_⟩
  refine ((importClass?_joined_iff twoReadings hlen hdot hcolon).1 _).mpr
    ⟨1, Nat.le_refl 1, by decide, hclass, fun j h1 hj => ?_⟩
  -- the only split with a longer module name is the one in front of the last component
  obtain rfl : j = 2 := by simp at hj; omega
  exact hnull

end World

end Conformance
