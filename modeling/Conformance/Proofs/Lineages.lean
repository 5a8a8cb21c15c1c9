import Conformance.Proofs.Outcome
import Conformance.World.Declaration
import Mathlib.Data.List.Nodup
import Mathlib.Data.List.Perm.Subperm

/-!
# Lineages

How the order in which a class looks up names comes from its bases. Merging lists takes one head
after the other (`Linearization.Merges`). What it comes to has the elements of all lists, none of
them twice, and each list in its order.

A world arises by declaring one class after the other (`World.Arises`), and each step preserves that
all lineages are as they should be (`World.IsLinear`): a class comes first, and behind it the merged
lineages of its bases. So the lineage of a class with one base is the class and the lineage of
that base (`World.Arises.lineage_eq_cons`), and the ancestors of an ancestor are ancestors
(`World.IsLinear.mem_lineage_trans`).
-/

namespace Conformance

/-! ### Merging -/

namespace Linearization

variable {α : Type} [DecidableEq α] {lists : List (List α)} {l out : List α} {x y : α}

/-- Lists are merged, head by head. -/
inductive Merges : List (List α) → List α → Prop where
  /-- Nothing is left to be taken. -/
  | done {lists : List (List α)} : lists.all List.isEmpty = true → Merges lists []
  /-- A head is taken from all lists that have it as their head. -/
  | step {lists : List (List α)} {x : α} {out : List α} : nextHead? lists = some x →
      Merges (dropHead x lists) out → Merges lists (x :: out)

theorem merges_of_mergeWithin {steps : ℕ} (h : mergeWithin steps lists = .ok out) :
    Merges lists out := by
  induction steps generalizing lists out with
  | zero =>
    rw [mergeWithin] at h
    split at h
    · next he =>
      obtain rfl := Except.ok.inj h
      exact .done he
    · cases h
  | succ steps ih =>
    rw [mergeWithin] at h
    split at h
    · next he =>
      obtain rfl := Except.ok.inj h
      exact .done he
    · cases hx : nextHead? lists with
      | none => rw [hx] at h; cases h
      | some x =>
        rw [hx] at h
        cases hm : mergeWithin steps (dropHead x lists) with
        | error e => simp [hm, Except.map] at h
        | ok rest =>
          obtain rfl : x :: rest = out := by simpa [hm, Except.map] using h
          exact .step hx (ih hm)

/-- The head that is taken is the head of a list, and no list has it further back. -/
theorem of_nextHead?_eq_some (h : nextHead? lists = some x) :
    (∃ l ∈ lists, l.head? = some x) ∧ ∀ l ∈ lists, x ∉ l.tail := by
  refine ⟨List.mem_filterMap.mp (List.mem_of_find?_eq_some h), fun l hl => ?_⟩
  have hfree := List.find?_some (p := fun y => isFree y lists) h
  simpa using List.all_eq_true.mp hfree l hl

/-- A list without the head `x`. -/
theorem mem_dropHead_iff : l ∈ dropHead x lists ↔
    ∃ m ∈ lists, (m = x :: l ∨ m.head? ≠ some x ∧ m = l) := by
  rw [dropHead, List.mem_map]
  refine exists_congr fun m => and_congr_right fun _ => ?_
  by_cases hm : m.head? = some x
  · obtain ⟨m, rfl⟩ := List.head?_eq_some_iff.mp hm
    simp
  · have hne : m ≠ x :: l := by
      rintro rfl
      exact hm rfl
    simp [hm, hne]

/-- Merged lists have the elements of all. -/
theorem Merges.mem_iff (h : Merges lists out) : y ∈ out ↔ ∃ l ∈ lists, y ∈ l := by
  induction h with
  | @done lists he =>
    refine iff_of_false List.not_mem_nil ?_
    rintro ⟨l, hl, hy⟩
    rw [List.isEmpty_iff.mp (List.all_eq_true.mp he l hl)] at hy
    cases hy
  | @step lists x out hx _ ih =>
    obtain ⟨⟨m, hm, hhead⟩, -⟩ := of_nextHead?_eq_some hx
    rw [List.mem_cons, ih]
    constructor
    · rintro (rfl | ⟨l, hl, hy⟩)
      · exact ⟨m, hm, List.mem_of_mem_head? hhead⟩
      · obtain ⟨k, hk, rfl | ⟨-, rfl⟩⟩ := mem_dropHead_iff.mp hl
        · exact ⟨_, hk, List.mem_cons_of_mem x hy⟩
        · exact ⟨_, hk, hy⟩
    · rintro ⟨l, hl, hy⟩
      by_cases hlx : l.head? = some x
      · obtain ⟨k, rfl⟩ := List.head?_eq_some_iff.mp hlx
        rcases List.mem_cons.mp hy with rfl | hy
        · exact Or.inl rfl
        · exact Or.inr ⟨k, mem_dropHead_iff.mpr ⟨_, hl, Or.inl rfl⟩, hy⟩
      · exact Or.inr ⟨l, mem_dropHead_iff.mpr ⟨_, hl, Or.inr ⟨hlx, rfl⟩⟩, hy⟩

/-- Merging lists nothing twice. -/
theorem Merges.nodup (h : Merges lists out) : out.Nodup := by
  induction h with
  | done _ => exact List.nodup_nil
  | @step lists x out hx hm ih =>
    obtain ⟨-, hfree⟩ := of_nextHead?_eq_some hx
    refine List.nodup_cons.mpr ⟨fun hmem => ?_, ih⟩
    obtain ⟨l, hl, hxl⟩ := hm.mem_iff.mp hmem
    obtain ⟨k, hk, rfl | ⟨hhead, rfl⟩⟩ := mem_dropHead_iff.mp hl
    · exact hfree _ hk hxl
    · -- not the head, and no list has it further back
      cases k with
      | nil => cases hxl
      | cons y k =>
        rcases List.mem_cons.mp hxl with rfl | hxk
        · exact hhead rfl
        · exact hfree _ hk hxk

/-- Merging keeps the order of each list. -/
theorem Merges.sublist (h : Merges lists out) (hl : l ∈ lists) : l.Sublist out := by
  induction h generalizing l with
  | done he => rw [List.isEmpty_iff.mp (List.all_eq_true.mp he l hl)]
  | @step lists x out _ _ ih =>
    by_cases hlx : l.head? = some x
    · obtain ⟨k, rfl⟩ := List.head?_eq_some_iff.mp hlx
      exact (ih (mem_dropHead_iff.mpr ⟨_, hl, Or.inl rfl⟩)).cons_cons x
    · exact (ih (mem_dropHead_iff.mpr ⟨_, hl, Or.inr ⟨hlx, rfl⟩⟩)).cons x

/-- A list without repetitions and one of its elements are merged into the list. -/
theorem Merges.eq_of_single (h : Merges [l, [x]] out) (hl : l.Nodup) (hx : x ∈ l) : out = l := by
  have hsub : out ⊆ l := by
    intro y hy
    obtain ⟨m, hm, hym⟩ := h.mem_iff.mp hy
    rcases List.mem_pair.mp hm with rfl | rfl
    · exact hym
    · rwa [List.mem_singleton.mp hym]
  have hle := (h.nodup.subperm hsub).length_le
  exact ((h.sublist List.mem_cons_self).eq_of_length_le hle).symm

end Linearization

open Linearization

namespace Builtin

theorem mem_lineage (b : Builtin) : b ∈ b.lineage := by cases b <;> decide

theorem nodup_lineage (b : Builtin) : b.lineage.Nodup := by cases b <;> decide

theorem mem_lineage_trans (b : Builtin) : ∀ c ∈ b.lineage, ∀ d ∈ c.lineage, d ∈ b.lineage := by
  cases b <;> decide

end Builtin

namespace World

/-! ### Classes that are there -/

variable (w : World)

/-- The class is there. -/
def Knows : ClassRef → Prop
  | .builtin _ => True
  | .declared id => ∃ o, w.class? id = some o

/-- The classes of the first world are in the second one, as they are. -/
def IsPartOf (w' : World) : Prop := ∀ id o, w.class? id = some o → w'.class? id = some o

variable {w} {w' : World} {c : ClassRef} {id : String} {o : ClassObject} {d : Declaration}

theorem IsPartOf.knows (h : w.IsPartOf w') (hc : w.Knows c) : w'.Knows c := by
  cases c with
  | builtin b => trivial
  | declared id =>
    obtain ⟨o, ho⟩ := hc
    exact ⟨o, h id o ho⟩

theorem lineage_declared (ho : w.class? id = some o) : w.lineage (.declared id) = o.lineage := by
  rw [lineage, ho]
  rfl

theorem IsPartOf.lineage_eq (h : w.IsPartOf w') (hc : w.Knows c) :
    w'.lineage c = w.lineage c := by
  cases c with
  | builtin b => rfl
  | declared id =>
    obtain ⟨o, ho⟩ := hc
    rw [lineage_declared ho, lineage_declared (h id o ho)]

theorem IsPartOf.map_lineage (h : w.IsPartOf w') {bases : List ClassRef}
    (hb : ∀ b ∈ bases, w.Knows b) : bases.map w'.lineage = bases.map w.lineage :=
  List.map_congr_left fun b hmem => h.lineage_eq (hb b hmem)

/-! ### Lineages as they should be -/

variable (w id o) in
/-- The lineage of a class begins with the class, behind which are the merged lineages of its bases.
No class occurs twice in it, and all of them are there. -/
structure IsLinearClass : Prop where
  knows_bases : ∀ b ∈ o.bases, w.Knows b
  merges : ∃ cs, o.lineage = .declared id :: cs ∧
    Merges (o.bases.map w.lineage ++ [o.bases]) cs
  nodup : o.lineage.Nodup
  knows : ∀ c ∈ o.lineage, w.Knows c

variable (w) in
/-- All lineages are as they should be. -/
def IsLinear : Prop := ∀ id o, w.class? id = some o → w.IsLinearClass id o

theorem IsLinearClass.of_isPartOf (ho : w.IsLinearClass id o) (h : w.IsPartOf w') :
    w'.IsLinearClass id o where
  knows_bases b hb := h.knows (ho.knows_bases b hb)
  merges := by
    rw [h.map_lineage ho.knows_bases]
    exact ho.merges
  nodup := ho.nodup
  knows c hc := h.knows (ho.knows c hc)

/-- A class is in its lineage. -/
theorem IsLinear.mem_lineage (h : w.IsLinear) (hc : w.Knows c) : c ∈ w.lineage c := by
  cases c with
  | builtin b => exact List.mem_map_of_mem b.mem_lineage
  | declared id =>
    obtain ⟨o, ho⟩ := hc
    obtain ⟨cs, hcs, -⟩ := (h id o ho).merges
    rw [lineage_declared ho, hcs]
    exact List.mem_cons_self

theorem IsLinear.nodup_lineage (h : w.IsLinear) (hc : w.Knows c) : (w.lineage c).Nodup := by
  cases c with
  | builtin b => exact b.nodup_lineage.map fun _ _ h => ClassRef.builtin.inj h
  | declared id =>
    obtain ⟨o, ho⟩ := hc
    rw [lineage_declared ho]
    exact (h id o ho).nodup

theorem IsLinear.knows_lineage (h : w.IsLinear) (hc : w.Knows c) :
    ∀ d ∈ w.lineage c, w.Knows d := by
  cases c with
  | builtin b =>
    intro d hd
    obtain ⟨b', -, rfl⟩ := List.mem_map.mp hd
    trivial
  | declared id =>
    obtain ⟨o, ho⟩ := hc
    rw [lineage_declared ho]
    exact (h id o ho).knows

/-- What comes from the bases of a class is in the lineage of one of them. -/
theorem IsLinear.exists_base (h : w.IsLinear) {bases cs : List ClassRef}
    (hbases : ∀ b ∈ bases, w.Knows b) (hm : Merges (bases.map w.lineage ++ [bases]) cs)
    (hc : c ∈ cs) : ∃ b ∈ bases, c ∈ w.lineage b := by
  obtain ⟨l, hl, hcl⟩ := hm.mem_iff.mp hc
  rcases List.mem_append.mp hl with hl | hl
  · obtain ⟨b, hb, rfl⟩ := List.mem_map.mp hl
    exact ⟨b, hb, hcl⟩
  · rw [List.mem_singleton.mp hl] at hcl
    exact ⟨c, hcl, h.mem_lineage (hbases c hcl)⟩

/-- The ancestors of an ancestor are ancestors. -/
theorem IsLinear.mem_lineage_trans (h : w.IsLinear) {d e : ClassRef} (hd : d ∈ w.lineage c)
    (he : e ∈ w.lineage d) : e ∈ w.lineage c := by
  -- the lineage of a base is shorter than that of the class
  induction hn : (w.lineage c).length using Nat.strongRecOn generalizing c with
  | ind n ih =>
    cases c with
    | builtin b =>
      obtain ⟨b', hb', rfl⟩ := List.mem_map.mp hd
      obtain ⟨b'', hb'', rfl⟩ := List.mem_map.mp he
      exact List.mem_map_of_mem (b.mem_lineage_trans b' hb' b'' hb'')
    | declared id =>
      cases ho : w.class? id with
      | none =>
        rw [lineage, ho] at hd
        cases hd
      | some o =>
        have hlinear := h id o ho
        obtain ⟨cs, hcs, hm⟩ := hlinear.merges
        rw [lineage_declared ho, hcs] at hd hn ⊢
        rcases List.mem_cons.mp hd with rfl | hd
        · rwa [lineage_declared ho, hcs] at he
        · obtain ⟨b, hb, hdb⟩ := h.exists_base hlinear.knows_bases hm hd
          have hsub := hm.sublist (List.mem_append_left _ (List.mem_map_of_mem hb))
          have hlt : (w.lineage b).length < n := by
            rw [← hn, List.length_cons]
            exact Nat.lt_succ_of_le hsub.length_le
          exact List.mem_cons_of_mem _ (hsub.subset (ih _ hlt hdb rfl))

/-! ### Declaring a class -/

/-- The bases of a class that is declared. -/
def basesOf (d : Declaration) : List ClassRef :=
  if d.bases.isEmpty then [.builtin .object] else d.bases

theorem merges_of_linearize {self : ClassRef} {bases cs : List ClassRef}
    (h : w.linearize self bases = .ok cs) :
    ∃ out, cs = self :: out ∧ Merges (bases.map w.lineage ++ [bases]) out := by
  unfold linearize at h
  split at h
  · cases h
  · next out _ hm => exact ⟨out, (Except.ok.inj h).symm, merges_of_mergeWithin hm⟩
  · cases h

/-- What is declared is one more class, with the bases of the declaration and the order and the
metaclass that come from them. -/
theorem exists_class_of_declare (h : w.declare d = .ok w') :
    ∃ o : ClassObject, w'.classes = w.classes ++ [o] ∧ o.id = d.id ∧ o.bases = basesOf d ∧
      w.linearize (.declared d.id) (basesOf d) = .ok o.lineage ∧
      w.settleMetaclass d.metaclass (basesOf d) = .ok o.metaclass := by
  obtain ⟨metaclass, hm, h⟩ := bind_eq_ok_iff.mp h
  obtain ⟨best, -, h⟩ := bind_eq_ok_iff.mp h
  obtain ⟨room, -, h⟩ := bind_eq_ok_iff.mp h
  obtain ⟨-, -, h⟩ := bind_eq_ok_iff.mp h
  obtain ⟨lineage, hl, h⟩ := bind_eq_ok_iff.mp h
  obtain ⟨-, -, h⟩ := bind_eq_ok_iff.mp h
  split at h
  · obtain ⟨names, -, h⟩ := bind_eq_ok_iff.mp h
    obtain rfl := pure_eq_ok_iff.mp h
    exact ⟨_, rfl, rfl, rfl, hl, hm⟩
  · obtain rfl := pure_eq_ok_iff.mp h
    exact ⟨_, rfl, rfl, rfl, hl, hm⟩

theorem class?_of_classes (h : w'.classes = w.classes ++ [o]) :
    w'.class? id = (w.class? id).or (if o.id = id then some o else none) := by
  rw [class?, class?, h, List.find?_append]
  by_cases ho : o.id = id <;> simp [ho]

/-- A class of its own identifier leaves the classes that are there as they are. -/
theorem isPartOf_of_classes (h : w'.classes = w.classes ++ [o]) : w.IsPartOf w' := by
  intro id o' ho'
  rw [class?_of_classes h, ho']
  rfl

/-- Declaring a class with an identifier of its own, from bases that are there, preserves that all
lineages are as they should be. -/
theorem IsLinear.declare (hw : w.IsLinear) (hnew : w.class? d.id = none)
    (hbases : ∀ b ∈ d.bases, w.Knows b) (h : w.declare d = .ok w') : w'.IsLinear := by
  obtain ⟨o, ho, hid, hb, hl, -⟩ := exists_class_of_declare h
  obtain ⟨cs, hcs, hm⟩ := merges_of_linearize hl
  have hpart := isPartOf_of_classes ho
  have hknows : ∀ b ∈ o.bases, w.Knows b := by
    rw [hb, basesOf]
    split
    · intro b hb
      rw [List.mem_singleton.mp hb]
      trivial
    · exact hbases
  rw [← hb] at hm
  -- what is merged is there, so that the class itself is not among it
  have hold : ∀ c ∈ cs, w.Knows c := by
    intro c hc
    obtain ⟨b, hb, hcb⟩ := hw.exists_base hknows hm hc
    exact hw.knows_lineage (hknows b hb) c hcb
  have hself : ClassRef.declared d.id ∉ cs := by
    intro hmem
    obtain ⟨o', ho'⟩ := hold _ hmem
    cases hnew.symm.trans ho'
  have hlinear : w'.IsLinearClass d.id o := by
    refine ⟨fun b hb => hpart.knows (hknows b hb), ⟨cs, hcs, ?_⟩, ?_, ?_⟩
    · rw [hpart.map_lineage hknows]
      exact hm
    · rw [hcs]
      exact List.nodup_cons.mpr ⟨hself, hm.nodup⟩
    · rw [hcs]
      intro c hc
      rcases List.mem_cons.mp hc with rfl | hc
      · exact ⟨o, by rw [class?_of_classes ho, hnew, if_pos hid]; rfl⟩
      · exact hpart.knows (hold c hc)
  intro id o' ho'
  rw [class?_of_classes ho] at ho'
  rcases Option.or_eq_some_iff.mp ho' with hold' | ⟨-, hnew'⟩
  · exact (hw id o' hold').of_isPartOf hpart
  · split_ifs at hnew' with hid'
    obtain rfl := Option.some.inj hnew'
    rw [← hid', hid]
    exact hlinear

/-! ### Worlds as they arise -/

/-- The classes of the world have been declared one after the other, each with an identifier of its
own and from bases that were there before. -/
inductive Arises : World → Prop where
  /-- A world without classes. -/
  | empty {w : World} : w.classes = [] → Arises w
  /-- One more class. -/
  | declare {w w' : World} {d : Declaration} : Arises w → w.class? d.id = none →
      (∀ b ∈ d.bases, w.Knows b) → w.declare d = .ok w' → Arises w'
  /-- Modules and annotations do not matter. -/
  | change {w w' : World} : Arises w → w'.classes = w.classes → Arises w'

/-- In a world as it arises, all lineages are as they should be. -/
theorem Arises.isLinear (h : w.Arises) : w.IsLinear := by
  induction h with
  | @empty w hw =>
    intro id o ho
    rw [class?, hw] at ho
    cases ho
  | declare _ hnew hbases hd ih => exact ih.declare hnew hbases hd
  | @change w w' _ hw ih =>
    have hclass (id : String) : w'.class? id = w.class? id := by rw [class?, class?, hw]
    intro id o ho
    exact (ih id o (hclass id ▸ ho)).of_isPartOf fun id o ho => by rw [hclass, ho]

/-- The lineage of a class with one base is the class and the lineage of the base. -/
theorem Arises.lineage_eq_cons (h : w.Arises) {b : ClassRef} (ho : w.class? id = some o)
    (hb : o.bases = [b]) : w.lineage (.declared id) = .declared id :: w.lineage b := by
  have hlinear := h.isLinear id o ho
  obtain ⟨cs, hcs, hm⟩ := hlinear.merges
  rw [hb] at hm
  have hknows : w.Knows b := hlinear.knows_bases b (by rw [hb]; exact List.mem_singleton_self b)
  rw [lineage_declared ho, hcs,
    hm.eq_of_single (h.isLinear.nodup_lineage hknows) (h.isLinear.mem_lineage hknows)]

end World

end Conformance
