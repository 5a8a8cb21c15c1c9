import Conformance.Proofs.Shadowing

/-!
# Private names

What is defined under a private name in the body of a class is stored with the name of the class in
front, unless this name is nothing but underscores (`bodyKey`). Looking for a name in a class
accepts the name itself, and for a private name also the mangled one (`World.acceptsKeys_mangled`),
so that no other key of its namespace counts.

These are the keys of the body, but for classes whose name is nothing but underscores: their private
names are looked for with one more underscore in front, as in the world `World.underscored`.
-/

namespace Conformance

/-! ### Keys of a class body -/

instance (name : String) : Decidable (IsPrivateName name) :=
  inferInstanceAs (Decidable (_ ∧ ¬ _))

/-- The name is nothing but underscores. -/
def OnlyUnderscores (name : String) : Prop := ∀ c ∈ name.toList, c = '_'

instance (name : String) : Decidable (OnlyUnderscores name) :=
  List.decidableBAll (· = '_') name.toList

/-- The key under which a class called `owner` stores what its body defines under a name. A private
name has that of the class in front, without the underscores at its beginning. A class whose name is
nothing but underscores stores all names as they are. -/
def bodyKey (owner name : String) : String :=
  if IsPrivateName name ∧ ¬ OnlyUnderscores owner then "_" ++ trimmedOf '_' owner ++ name else name

variable {called name : String}

theorem trimmedOf_eq_empty_iff : trimmedOf '_' called = "" ↔ OnlyUnderscores called := by
  rw [trimmedOf, ← String.toList_inj, String.toList_ofList, String.toList_empty,
    List.dropWhile_eq_nil_iff]
  simp [OnlyUnderscores]

/-- A private name is mangled as in the body of the class, if the name of the class is more than
underscores. -/
theorem bodyKey_of_private (hp : IsPrivateName name) (h : ¬ OnlyUnderscores called) :
    bodyKey called name = mangle called name :=
  if_pos ⟨hp, h⟩

theorem bodyKey_of_onlyUnderscores (h : OnlyUnderscores called) : bodyKey called name = name :=
  if_neg fun hp => hp.2 h

theorem bodyKey_of_not_private (hp : ¬ IsPrivateName name) : bodyKey called name = name :=
  if_neg fun h => hp h.1

/-- A class whose name is nothing but underscores is looked at under one more in front. -/
theorem mangle_of_onlyUnderscores (h : OnlyUnderscores called) :
    mangle called name = "_" ++ name := by
  rw [mangle, trimmedOf_eq_empty_iff.mpr h]
  rfl

namespace World

/-- The places that a class declares have the keys that its body has. -/
theorem slotMember_eq_bodyKey (called name : String) :
    slotMember called name = bodyKey called name := by
  have hbare : (called.toList.dropWhile (· == '_')).isEmpty = true ↔ OnlyUnderscores called := by
    rw [← trimmedOf_eq_empty_iff, trimmedOf, ← String.toList_inj, String.toList_ofList,
      String.toList_empty, List.isEmpty_iff]
  simp only [slotMember, bodyKey, IsPrivateName, ← hbare, ← List.isPrefixOf_iff_prefix,
    ← List.isSuffixOf_iff_suffix, Bool.and_eq_true, Bool.not_eq_true', Bool.not_eq_true]
  rfl

/-! ### Keys that are accepted -/

variable (w : World)

/-- What the namespace of an object has under the first of some keys that is in it, if any is. -/
inductive HoldsFirst (owner : Value) : List String → Option Value → Prop where
  /-- There are no keys. -/
  | nil : HoldsFirst owner [] none
  /-- The first key is in the namespace. -/
  | here {key : String} {keys : List String} {a : Value} : w.HoldsUnder owner key (some a) →
      HoldsFirst owner (key :: keys) (some a)
  /-- The first key is not in the namespace. -/
  | later {key : String} {keys : List String} {r : Option Value} : w.HoldsUnder owner key none →
      HoldsFirst owner keys r → HoldsFirst owner (key :: keys) r

/-- What a class itself has under the name is what the first of the keys has that is in its
namespace. No other key counts. -/
def AcceptsKeys (owner : Value) (name : String) (keys : List String) : Prop :=
  ∀ r, w.ownDefinition? owner name = .ok r ↔ w.HoldsFirst owner keys r

variable {w}
variable {owner a : Value} {owners : List Value} {key key' : String} {keys : List String}
  {r r' : Option Value} {k : ClassRef}

theorem HoldsUnder.unique (h : w.HoldsUnder owner key r) (h' : w.HoldsUnder owner key r') :
    r = r' := by
  obtain ⟨members, hm⟩ : ∃ members, w.namespaceOf owner = .ok members := by
    cases h with
    | present hm => exact ⟨_, hm⟩
    | absent hm => exact ⟨_, hm⟩
  exact answer_unique ((holdsUnder_iff hm).mpr h) ((holdsUnder_iff hm).mpr h')

theorem holdsFirst_singleton_iff : w.HoldsFirst owner [key] r ↔ w.HoldsUnder owner key r := by
  constructor
  · intro h
    cases h with
    | here h => exact h
    | later h hr =>
      cases hr
      exact h
  · intro h
    cases r with
    | some a => exact .here h
    | none => exact .later h .nil

theorem holdsFirst_pair_iff : w.HoldsFirst owner [key, key'] r ↔
    (∃ a, r = some a ∧ w.HoldsUnder owner key r) ∨
      w.HoldsUnder owner key none ∧ w.HoldsUnder owner key' r := by
  constructor
  · intro h
    cases h with
    | here h => exact Or.inl ⟨_, rfl, h⟩
    | later h hr => exact Or.inr ⟨h, holdsFirst_singleton_iff.mp hr⟩
  · rintro (⟨a, rfl, h⟩ | ⟨h, hr⟩)
    · exact .here h
    · exact .later h (holdsFirst_singleton_iff.mpr hr)

/-- Of a private name, the name itself is accepted and the mangled one. -/
theorem acceptsKeys_of_private (hp : IsPrivateName name) (hk : w.mangled owner name = .ok key) :
    w.AcceptsKeys owner name [name, key] := by
  intro r
  rw [ownDefinition?_eq_ok_iff, holdsFirst_pair_iff]
  constructor
  · intro h
    cases h with
    | literal h => exact Or.inl ⟨_, rfl, h⟩
    | mangled hnone _ hk' hr =>
      obtain rfl := answer_unique hk hk'
      exact Or.inr ⟨hnone, hr⟩
    | nothing _ hnot => exact absurd hp hnot
  · rintro (⟨a, rfl, h⟩ | ⟨hnone, hr⟩)
    · exact .literal h
    · exact .mangled hnone hp hk hr

/-- Any other name is accepted as it is and not otherwise. -/
theorem acceptsKeys_of_not_private (hp : ¬ IsPrivateName name) :
    w.AcceptsKeys owner name [name] := by
  intro r
  rw [ownDefinition?_eq_ok_iff, holdsFirst_singleton_iff]
  constructor
  · intro h
    cases h with
    | literal h => exact h
    | mangled _ hp' => exact absurd hp' hp
    | nothing h _ => exact h
  · intro h
    cases r with
    | some a => exact .literal h
    | none => exact .nothing h hp

theorem acceptsKeys_mangled (h : w.read owner "__name__" = .ok (.str called))
    (hp : IsPrivateName name) : w.AcceptsKeys owner name [name, mangle called name] :=
  acceptsKeys_of_private hp (mangled_of_called h name)

/-- Where one more key is looked at, the name itself is all that counts if and only if there is
nothing under the other key, unless there is something under the name. -/
theorem acceptsKeys_self_iff (h : w.AcceptsKeys owner name [name, key]) :
    w.AcceptsKeys owner name [name, name] ↔
      (w.HoldsUnder owner name none → w.HoldsUnder owner key none) := by
  constructor
  · intro hself hnone
    have hfound := (hself none).mpr (holdsFirst_pair_iff.mpr (Or.inr ⟨hnone, hnone⟩))
    obtain ⟨a, hcontra, -⟩ | ⟨-, hkey⟩ := holdsFirst_pair_iff.mp ((h none).mp hfound)
    · cases hcontra
    · exact hkey
  · intro himp r
    rw [h r, holdsFirst_pair_iff, holdsFirst_pair_iff]
    -- where the name itself has nothing, neither key has anything
    refine or_congr_right (and_congr_right fun hnone => ?_)
    constructor
    · intro hr
      obtain rfl := hr.unique (himp hnone)
      exact hnone
    · intro hr
      obtain rfl := hr.unique hnone
      exact himp hnone

/-- The keys of the class body are the accepted ones, but for a class whose name is nothing but
underscores and that has something under one more underscore. -/
theorem acceptsKeys_bodyKey_iff (h : w.read owner "__name__" = .ok (.str called))
    (hp : IsPrivateName name) : w.AcceptsKeys owner name [name, bodyKey called name] ↔
      (OnlyUnderscores called → w.HoldsUnder owner name none →
        w.HoldsUnder owner ("_" ++ name) none) := by
  have hkeys := acceptsKeys_mangled h hp
  by_cases hu : OnlyUnderscores called
  · rw [mangle_of_onlyUnderscores hu] at hkeys
    rw [bodyKey_of_onlyUnderscores hu, acceptsKeys_self_iff hkeys, forall_prop_of_true hu]
  · rw [bodyKey_of_private hp hu]
    exact iff_of_true hkeys fun hu' => absurd hu' hu

/-! ### What becomes of the keys -/

/-- What a class has under an accepted key decides what is found. -/
theorem AcceptsKeys.findMethodAmong_cons_of_some (hk : w.AcceptsKeys owner name keys)
    (h : w.HoldsFirst owner keys (some a)) (owners : List Value) :
    w.findMethodAmong (owner :: owners) name = w.describe name a (.ofName name) :=
  findMethodAmong_cons_of_keeps (ownDefinition?_eq_ok_iff.mp ((hk _).mpr h)) owners

/-- A class that has nothing under any accepted key is passed over. -/
theorem AcceptsKeys.findMethodAmong_cons_of_none (hk : w.AcceptsKeys owner name keys)
    (h : w.HoldsFirst owner keys none) (owners : List Value) :
    w.findMethodAmong (owner :: owners) name = w.findMethodAmong owners name :=
  findMethodAmong_cons (ownDefinition?_eq_ok_iff.mp ((hk _).mpr h)) owners

/-- What an ordinary class has under a key is what it stores there. -/
theorem IsOrdinary.holdsUnder_iff (h : w.IsOrdinary k) :
    w.HoldsUnder (.cls k) key r ↔ w.stored? k key = r := by
  rw [← World.holdsUnder_iff h.namespaceOf, contains_namespaceView, ok_bind]
  cases hs : w.stored? k key with
  | some a =>
    rw [Option.isSome_some, if_pos rfl, item_namespaceView hs, ok_bind]
    exact pure_eq_ok_iff
  | none => exact pure_eq_ok_iff

/-- **Which keys of a class count for a name.** For a private name these are the name itself and the
mangled one. They are the name and the key of the class body, unless the name of the class is
nothing but underscores: then they are, if and only if the class has something under the name itself
or nothing under one more underscore. Any other name counts alone, and the class body stores it as
it is. What the class has under the first such key decides, and a class that has nothing there is
passed over. Ordinary classes tell their name, and have under a key what they store there. -/
theorem accepted_keys (w : World) :
    (∀ (owner : Value) (called name : String), w.read owner "__name__" = .ok (.str called) →
      IsPrivateName name → w.AcceptsKeys owner name [name, mangle called name] ∧
        (w.AcceptsKeys owner name [name, bodyKey called name] ↔
          (OnlyUnderscores called → w.HoldsUnder owner name none →
            w.HoldsUnder owner ("_" ++ name) none))) ∧
    (∀ (owner : Value) (name : String), ¬ IsPrivateName name →
      w.AcceptsKeys owner name [name] ∧ ∀ called, bodyKey called name = name) ∧
    (∀ (owner : Value) (name : String) (keys : List String), w.AcceptsKeys owner name keys →
      ∀ owners : List Value,
        (∀ a, w.HoldsFirst owner keys (some a) →
          w.findMethodAmong (owner :: owners) name = w.describe name a (.ofName name)) ∧
        (w.HoldsFirst owner keys none →
          w.findMethodAmong (owner :: owners) name = w.findMethodAmong owners name)) ∧
    (∀ k, w.IsOrdinary k → w.read (.cls k) "__name__" = .ok (.str (w.shortName k)) ∧
      ∀ key r, w.HoldsUnder (.cls k) key r ↔ w.stored? k key = r) ∧
    ∀ called name, slotMember called name = bodyKey called name := by
  refine ⟨?_, ?_, ?_, ?_, slotMember_eq_bodyKey⟩
  · intro owner called name h hp
    exact ⟨acceptsKeys_mangled h hp, acceptsKeys_bodyKey_iff h hp⟩
  · intro owner name hp
    exact ⟨acceptsKeys_of_not_private hp, fun called => bodyKey_of_not_private hp⟩
  · intro owner name keys hk owners
    exact ⟨fun a h => hk.findMethodAmong_cons_of_some h owners,
      fun h => hk.findMethodAmong_cons_of_none h owners⟩
  · intro k hk
    exact ⟨hk.read_name, fun key r => hk.holdsUnder_iff⟩

end World

/-! ### A class whose name is nothing but underscores -/

/-- The class is called `__` and stores a method with three underscores in front. -/
def Declaration.underscored : List Declaration :=
  [{ Declaration.plain "K" [("___x", .function none none none)] with
      name := "__", qualname := "__" }]

/-- The world with this class. -/
def World.underscored : World :=
  (Declaration.underscored.foldlM World.declare {}).toOption.getD {}

namespace World

/-- The body of the class stores the private name `__x` as it is, and nothing is stored there.
Looking for it finds what the class stores under another key. -/
theorem not_acceptsKeys_underscored :
    Declaration.underscored.foldlM World.declare {} = .ok underscored ∧
      underscored.IsOrdinary (.declared "K") ∧
      underscored.shortName (.declared "K") = "__" ∧ IsPrivateName "__x" ∧
      bodyKey "__" "__x" = "__x" ∧
      underscored.stored? (.declared "K") "__x" = none ∧
      (∃ d, underscored.findMethod (.cls (.declared "K")) "__x" = .ok (some d)) ∧
      ¬ underscored.AcceptsKeys (.cls (.declared "K")) "__x" ["__x", bodyKey "__" "__x"] := by
  have hk : underscored.IsOrdinary (.declared "K") := Or.inl rfl
  have hp : IsPrivateName "__x" := by decide
  have hu : OnlyUnderscores "__" := by decide
  let d : Descriptor := ⟨"__x", ⟨4⟩, by decide, by decide⟩
  refine ⟨rfl, hk, rfl, hp, rfl, rfl, ⟨d, rfl⟩, fun hkeys => ?_⟩
  have hnone := (acceptsKeys_bodyKey_iff hk.read_name hp).mp hkeys hu (hk.holdsUnder_iff.mpr rfl)
  cases hk.holdsUnder_iff.mp hnone

end World

end Conformance
