import Conformance.World.Measure

/-!
# Equal objects

Whether two objects are equal, and whether they are the same item of a set or the same key of a
dictionary. Built-in values are compared by what they hold (`Value.equals`). A class may compare its
objects with a method of its own, and may give them a hash: only objects with the same hash are
compared at all. Of equal items the first stays, and an equal key gets the new value.
-/

namespace Conformance

open Number (Binary64)

namespace World

variable (w : World) (e : Evaluator)

/-- What the class of the first object says of whether it equals the second. A built-in class has
nothing to say of objects that it does not know, nor has a method that cannot be bound. -/
def comparison? (a b : Value) : Outcome (Option Value) :=
  match w.special a "__eq__" with
  | .own f => (w.bound? e a f).mapM fun g => e.call g [b]
  | _ => .ok (if Value.equals a.core b.core then some (.bool true) else none)

/-- The objects are equal. The class of the first is asked, and if it has nothing to say, that of
the second; but a class derived from that of the first comes first. -/
def equal (a b : Value) : Outcome Bool := do
  let derived := w.classOf a ≠ w.classOf b ∧ (w.lineage (w.classOf b)).contains (w.classOf a)
  let (first, second) := if derived then (w.comparison? e b a, w.comparison? e a b)
    else (w.comparison? e a b, w.comparison? e b a)
  match ← first with
  | some r => w.truth e r
  | none =>
    match ← second with
    | some r => w.truth e r
    | none => .ok false

/-- The objects differ, of which the first is a member of a built-in class. -/
def differs (a b : Value) : Outcome Bool :=
  let answer? (f : Value) (usual : Bool) : Outcome Bool :=
    match w.bound? e b f with
    | some g => do w.truth e (← e.call g [a])
    | none => .ok usual
  match w.special b "__ne__", w.special b "__eq__" with
  | .own f, _ => answer? f true
  | _, .own f => do return !(← answer? f false)
  | _, _ => .ok (!Value.equals a b)

/-- What is known of the hash of a floating-point number: that of an integer is the integer. -/
def floatHash? (x : Binary64) : Option Int :=
  x.truncate.bind fun n => if x.equalsInt n then some n else none

/-- What is known of the hash of a built-in value: equal numbers have the same hash, of whatever
class they are. -/
def numberHash? : Value → Option Int
  | .float x => floatHash? x
  | .complex re im => if im.isTruthy then none else floatHash? re
  | v => v.toInt?

/-- The hash that a class gives to one of its objects with a method of its own. An object has no
hash if its class has nothing there, or what cannot be bound. -/
def ownHash (v stored : Value) : Outcome Int :=
  match w.bound? e v stored with
  | none | some .null => .error (.unhashable (w.typeName v))
  | some g => do
    match (← e.call g []).core.toInt? with
    | some n => return n
    | none => .error .hashExpected

mutual

/-- The hash of an object, if it is known as an integer; other hashes follow from what the object
holds. -/
def hash? : Value → Outcome (Option Int)
  | .instance c content =>
    match w.special (.instance c content) "__hash__" with
    | .absent => .error (.unhashable (w.typeName (.instance c content)))
    | .own f => do return some (← w.ownHash e (.instance c content) f)
    | .builtin _ => hashContent? content
  | .cls c =>
    match w.special (.cls c) "__hash__" with
    | .own f => do return some (← w.ownHash e (.cls c) f)
    | _ => .ok none
  | .tuple vs => do hashAll vs; return none
  | .list vs => .error (.unhashable (w.typeName (.list vs)))
  | .set vs => .error (.unhashable (w.typeName (.set vs)))
  | .dict es => .error (.unhashable (w.typeName (.dict es)))
  | .bytearray bs => .error (.unhashable (w.typeName (.bytearray bs)))
  | v => .ok (numberHash? v)

/-- The hash of what an object holds. -/
def hashContent? : Option Value → Outcome (Option Int)
  | none => .ok none
  | some v => hash? v

/-- All objects have a hash. -/
def hashAll : List Value → Outcome Unit
  | [] => .ok ()
  | v :: vs => do
    let _ ← hash? v
    hashAll vs

end

/-- An item of a set or a key of a dictionary, with its hash as far as it is known. -/
structure Hashed where
  /-- The hash. -/
  hash : Option Int
  /-- The object. -/
  object : Value

/-- The object with its hash. -/
def hashed (v : Value) : Outcome Hashed := do return ⟨← w.hash? e v, v⟩

/-- The second item counts as the first. -/
def sameItem (a b : Hashed) : Outcome Bool :=
  if a.hash = b.hash then w.equal e a.object b.object else .ok false

/-- The first item among those of a set counts as the given one. -/
def hasItem (kept : List Hashed) (b : Hashed) : Outcome Bool := kept.anyM fun a => w.sameItem e a b

/-- The items without those that equal an earlier one. -/
def distinct (vs : List Value) : Outcome (List Value) := do
  let kept ← vs.foldlM (fun kept v => do
    let b ← w.hashed e v
    return if ← w.hasItem e kept b then kept else kept ++ [b]) []
  return kept.map Hashed.object

/-- The entries with one more, in place of one with an equal key. -/
def putEntry (b : Hashed) (v : Value) : List (Hashed × Value) → Outcome (List (Hashed × Value))
  | [] => .ok [(b, v)]
  | entry :: rest => do
    if ← w.sameItem e entry.1 b then return (entry.1, v) :: rest
    else return entry :: (← putEntry b v rest)

/-- The entries with one more. -/
def put (kept : List (Hashed × Value)) (key value : Value) : Outcome (List (Hashed × Value)) := do
  w.putEntry e (← w.hashed e key) value kept

/-- The keys and values without the hashes. -/
def withoutHashes (kept : List (Hashed × Value)) : List (Value × Value) :=
  kept.map fun entry => (entry.1.object, entry.2)

/-- The entries of a dictionary to which these are given in turn. -/
def putAll (es : List (Value × Value)) : Outcome (List (Value × Value)) := do
  return withoutHashes (← es.foldlM (fun kept entry => w.put e kept entry.1 entry.2) [])

end World

end Conformance
