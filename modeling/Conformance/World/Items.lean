import Conformance.Value.Literal
import Conformance.World.Equality

/-!
# Items of objects

Going through the items of an object, taking it apart, looking for a name in it and asking it for
what it holds under a key. Built-in collections do so by what they hold, objects of other classes
by methods of their own. A method of its own that goes from one item to the next gives the same
item over and over, so that there is no end (`World.Walk`).
-/

namespace Conformance

namespace World

variable (w : World) (e : Evaluator)

/-- The items of a built-in collection, one after the other. -/
def contentItems : Value → List Value
  | .list vs | .tuple vs | .set vs | .frozenset vs => vs
  | .dict es => es.map Prod.fst
  | .str s => s.toList.map fun c => .str (String.singleton c)
  | .bytes bs | .bytearray bs => bs.map fun b => .int b.toNat
  | .namespaceView c => (w.memberNames c).map .str
  | _ => []

/-- What going through the items of an object comes to. -/
inductive Walk where
  /-- These items, and then an end. -/
  | all (items : List Value)
  /-- The same item over and over, or the same complaint. -/
  | endless (item : Outcome Value)

/-- Goes through what is to give the items of an object. -/
def walkIterator (iterator : Value) : Outcome Walk :=
  match w.special iterator "__next__" with
  | .own f => .ok (.endless (w.callOwn e iterator f []))
  | _ => .error (.notIterator (w.typeName iterator))

/-- Goes through the items of an object by asking for them by their numbers. -/
def walkByNumber (v : Value) : Outcome Walk :=
  match w.special v "__getitem__", v.core with
  | .own f, _ => .ok (.endless (w.callOwn e v f [.int 0]))
  | .builtin _, .dict es =>
    match es.find? fun entry => Value.equals entry.1 (.int 0) with
    | some entry => .ok (.endless (.ok entry.2))
    | none => .ok (.endless (.error (.noKey (Value.int 0).literal)))
  | .builtin _, content => .ok (.all (w.contentItems content))
  | .absent, _ => .error (.notIterable (w.typeName v))

/-- Goes through the items of an object. A method for that which cannot be bound counts as
absent. -/
def walk (v : Value) : Outcome Walk :=
  match w.special v "__iter__" with
  | .builtin _ => .ok (.all (w.contentItems v.core))
  | .own f =>
    match w.bound? e v f with
    | some .null => .error (.notIterable (w.typeName v))
    | some g => do w.walkIterator e (← e.call g [])
    | none => w.walkByNumber e v
  | .absent => w.walkByNumber e v

/-- The items of an object, one after the other. -/
def items (v : Value) : Outcome (List Value) := do
  match ← w.walk e v with
  | .all vs => return vs
  | .endless item => do
    let _ ← item
    .error .endless

/-- The object has items, or claims so. -/
def hasItems (v : Value) : Bool :=
  match w.special v "__iter__", w.special v "__getitem__" with
  | .absent, .own _ => true
  | .absent, _ => false
  | _, _ => true

/-- The items of an object that is to have `n` of them. -/
def unpack (n : Nat) (v : Value) : Outcome (List Value) := do
  if w.hasItems v then
    match ← w.walk e v with
    | .all vs =>
      if vs.length < n then .error (.tooFewItems n vs.length)
      else if n < vs.length then .error (.tooManyItems n)
      else return vs
    | .endless item => do
      let _ ← item
      .error (.tooManyItems n)
  else .error (.notUnpackable (w.typeName v))

/-- The text occurs in the other one. -/
def occursIn (needle : List Char) : List Char → Bool
  | [] => needle.isEmpty
  | c :: cs => needle.isPrefixOf (c :: cs) || occursIn needle cs

/-- A built-in collection holds a name. -/
def contentContains (v : Value) (name : String) : Outcome Bool :=
  match v with
  | .str s => .ok (occursIn name.toList s.toList)
  | .bytes _ | .bytearray _ => .error (.badNeedle "a bytes-like object is required, not 'str'")
  | .namespaceView c => .ok (w.stored? c name).isSome
  | v => (w.contentItems v).anyM fun item => w.equal e item (.str name)

/-- The object holds a name. -/
def contains (v : Value) (name : String) : Outcome Bool :=
  match w.special v "__contains__" with
  | .own f => do
    match ← w.bindOwn e v f with
    | .null => .error (.notContainer (w.typeName v))
    | g => w.truth e (← e.call g [.str name])
  | .builtin _ => w.contentContains e v.core name
  | .absent =>
    match w.walk e v with
    | .ok (.all vs) => vs.anyM fun item => w.equal e item (.str name)
    | .ok (.endless item) => do
      if ← w.equal e (← item) (.str name) then return true else .error .endless
    | .error c => .error (if c.kind = .type then .notCollection (w.typeName v) else c)

/-- What a built-in collection of the given type holds under a key. -/
def contentItem (v : Value) (typeName : String) (key : Value) : Outcome Value :=
  let indexed (sequence expected : String) := .error (.badIndex sequence expected (w.typeName key))
  match v, key with
  | .namespaceView c, .str name =>
    match w.stored? c name with
    | some a => .ok a
    | none => .error (.noKey key.literal)
  | .dict es, _ =>
    match es.find? fun entry => Value.equals entry.1 key with
    | some entry => .ok entry.2
    | none => .error (.noKey key.literal)
  | .str _, _ => .error (.badIndex "string" "integers" ("'" ++ w.typeName key ++ "'"))
  | .list _, _ => indexed "list" "integers or slices"
  | .tuple _, _ => indexed "tuple" "integers or slices"
  | .bytes _, _ => indexed "byte" "integers or slices"
  | .bytearray _, _ => indexed "bytearray" "integers or slices"
  | _, _ => .error (.notSubscriptable typeName)

/-- What the object holds under a key. -/
def item (v key : Value) : Outcome Value :=
  match w.special v "__getitem__" with
  | .own f => w.callOwn e v f [key]
  | .builtin _ => w.contentItem v.core (w.typeName v) key
  | .absent => .error (.notSubscriptable (w.typeName v))

end World

end Conformance
