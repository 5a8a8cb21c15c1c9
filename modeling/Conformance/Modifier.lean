/-!
# Modifiers

The vocabulary of specifications: how widely a method may be used (`Visibility`), which
visibilities a specification admits (`Access`), the single modifiers of a method (`Modifier`)
and sets of them, kept as the bits of a number (`Modifiers`). Bit 3 is unused; bits beyond the
known ones are kept and have no meaning.
-/

namespace Conformance

/-! ### Visibility and access -/

/-- How widely a method may be used. -/
inductive Visibility where
  /-- By everyone. -/
  | pub
  /-- By the class and the classes derived from it. -/
  | prot
  /-- By the class alone. -/
  | priv
  deriving DecidableEq, Repr

namespace Visibility

/-- All visibilities, widest first. -/
def all : List Visibility := [pub, prot, priv]

/-- The word for the visibility. -/
def keyword : Visibility → String
  | pub => "public"
  | prot => "protected"
  | priv => "private"

/-- The word for the visibility, in capitals. -/
def label : Visibility → String
  | pub => "PUBLIC"
  | prot => "PROTECTED"
  | priv => "PRIVATE"

theorem mem_all (v : Visibility) : v ∈ all := by cases v <;> decide

end Visibility

/-- Which visibilities are admitted: a single one, or all but one. -/
inductive Access where
  /-- This visibility alone. -/
  | only (v : Visibility)
  /-- Every visibility but this one. -/
  | allBut (v : Visibility)
  deriving DecidableEq, Repr

namespace Access

/-- All access constraints: the positive ones first. -/
def all : List Access := Visibility.all.map only ++ Visibility.all.map allBut

/-- The word for the constraint; an exclamation mark negates. -/
def keyword : Access → String
  | only v => v.keyword
  | allBut v => "!" ++ v.keyword

/-- The name of the constraint, in capitals. -/
def label : Access → String
  | only v => v.label
  | allBut v => "NOT_" ++ v.label

/-- The constraint admits the visibility. -/
def allows : Access → Visibility → Bool
  | only v, w => w == v
  | allBut v, w => w != v

/-- The constraint that a word stands for. -/
def ofKeyword? (s : String) : Option Access := all.find? fun a => a.keyword == s

theorem mem_all (a : Access) : a ∈ all := by rcases a with ⟨⟨⟩⟩ | ⟨⟨⟩⟩ <;> decide

/-- Every constraint is found again by its word. -/
theorem ofKeyword?_keyword (a : Access) : ofKeyword? a.keyword = some a := by
  rcases a with ⟨⟨⟩⟩ | ⟨⟨⟩⟩ <;> decide

end Access

/-! ### Sets of modifiers -/

/-- A single modifier of a method. -/
inductive Modifier where
  | pub | prot | priv | static | final | abstract
  deriving DecidableEq, Repr

namespace Modifier

/-- All modifiers, in the order of their bits. -/
def all : List Modifier := [pub, prot, priv, static, final, abstract]

/-- The position of the modifier's bit. -/
def index : Modifier → Nat
  | pub => 0
  | prot => 1
  | priv => 2
  | static => 4
  | final => 5
  | abstract => 6

/-- The modifier as a number. -/
def mask (m : Modifier) : Nat := 1 <<< m.index

/-- The name of the modifier, in capitals. -/
def label : Modifier → String
  | pub => "PUBLIC"
  | prot => "PROTECTED"
  | priv => "PRIVATE"
  | static => "STATIC"
  | final => "FINAL"
  | abstract => "ABSTRACT"

end Modifier

/-- The modifier that a visibility amounts to. -/
def Visibility.modifier : Visibility → Modifier
  | pub => .pub
  | prot => .prot
  | priv => .priv

/-- The position of a visibility in the order of definition, from one. -/
def Visibility.rank : Visibility → Nat
  | pub => 1
  | prot => 2
  | priv => 3

/-- A set of modifiers, as the bits of a number. -/
structure Modifiers where
  /-- The number whose bits are the members. -/
  bits : Nat
  deriving DecidableEq, Repr

namespace Modifiers

/-- The set with the given members. -/
def ofList (ms : List Modifier) : Modifiers := ⟨ms.foldr (fun m n => m.mask ||| n) 0⟩

/-- How many binary digits a number has. -/
def bitLength (n : Nat) : Nat := if n = 0 then 0 else n.log2 + 1

/-- The set that an integer stands for. A negative integer counts from the least power of two
that is above its bits and not below 128, so its low seven bits are those of its two's
complement. -/
def ofInt : Int → Modifiers
  | .ofNat n => ⟨n⟩
  | .negSucc n => ⟨max 128 (1 <<< bitLength (n + 1)) - (n + 1)⟩

/-- The modifier is a member. -/
def contains (ms : Modifiers) (m : Modifier) : Bool := ms.bits.testBit m.index

theorem testBit_mask (m k : Modifier) : m.mask.testBit k.index = decide (k = m) := by
  cases m <;> cases k <;> decide

/-- The set with the given members has these members and no others. -/
theorem contains_ofList (ms : List Modifier) (m : Modifier) :
    (ofList ms).contains m = decide (m ∈ ms) := by
  induction ms with
  | nil => simp [ofList, contains]
  | cons k ms ih =>
    have h : (ofList (k :: ms)).contains m = (k.mask.testBit m.index || (ofList ms).contains m) :=
      Nat.testBit_or ..
    rw [h, testBit_mask, ih]
    simp

/-- The visibilities among the members. -/
def visibilities (ms : Modifiers) : List Visibility :=
  Visibility.all.filter fun v => ms.contains v.modifier

/-- The members that are visibilities, as a number. -/
def visibilityBits (vs : List Visibility) : Nat := (ofList (vs.map Visibility.modifier)).bits

/-- The set of all visibilities. -/
def accessMask : Modifiers := ofList (Visibility.all.map Visibility.modifier)

end Modifiers

/-- The visibilities that an access constraint admits, as a set of modifiers. -/
def Access.bits (a : Access) : Modifiers :=
  .ofList ((Visibility.all.filter a.allows).map Visibility.modifier)

/-! ### Clauses -/

/-- A property of a method that holds or does not. -/
inductive Flag where
  | abstract | final | static
  deriving DecidableEq, Repr

/-- The word for the flag. -/
def Flag.keyword : Flag → String
  | abstract => "abstract"
  | final => "final"
  | static => "static"

/-- What a clause of a specification is about. A specification has at most one clause of each
category. -/
inductive Category where
  /-- One of the flags. -/
  | flag (f : Flag)
  /-- The visibility. -/
  | access
  deriving DecidableEq, Repr

/-- A clause of a specification. -/
inductive Clause where
  /-- The flag must have this value. -/
  | flag (f : Flag) (required : Bool)
  /-- The visibility must be admitted. -/
  | access (a : Access)
  deriving DecidableEq, Repr

/-- What the clause is about. -/
def Clause.category : Clause → Category
  | flag f _ => .flag f
  | access _ => .access

/-- The word for the clause; an exclamation mark negates. -/
def Clause.keyword : Clause → String
  | flag f true => f.keyword
  | flag f false => "!" ++ f.keyword
  | access a => a.keyword

namespace Category

/-- All categories. -/
def all : List Category := [flag .abstract, flag .final, flag .static, access]

/-- The clauses of the category. -/
def clauses : Category → List Clause
  | flag f => [.flag f true, .flag f false]
  | access => Access.all.map .access

/-- The name of the category, in capitals. -/
def label : Category → String
  | flag .abstract => "ABSTRACT"
  | flag .final => "FINAL"
  | flag .static => "STATIC"
  | access => "ACCESS"

theorem mem_all (c : Category) : c ∈ all := by rcases c with ⟨⟨⟩⟩ | _ <;> decide

/-- The clauses of a category are exactly the clauses that are about it. -/
theorem mem_clauses_iff {c : Category} {k : Clause} : k ∈ c.clauses ↔ k.category = c := by
  rcases c with f | _ <;> rcases k with ⟨g, _ | _⟩ | a <;>
    simp [clauses, Clause.category, Access.mem_all, eq_comm]

end Category

end Conformance
