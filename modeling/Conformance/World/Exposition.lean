import Conformance.Layout
import Conformance.World.Evaluation

/-!
# Objects as they are laid out

Which layout an object has. An object may tell itself what it consists of, and then it is laid out
as a call of its class; an object that answers to any name whatsoever is not asked. Collections of
the built-in kinds are laid out item by item, unless their class writes its objects in its own
way. All other objects are written as literals.
-/

namespace Conformance

/-! ### Nesting -/

namespace Value

mutual

/-- How deep a value is nested. -/
def depth : Value → Nat
  | list vs | tuple vs | set vs | frozenset vs | arguments vs => depths vs + 1
  | dict es => entryDepths es + 1
  | .instance _ (some v) => depth v + 1
  | _ => 1

/-- How deep the deepest of several values is nested. -/
def depths : List Value → Nat
  | [] => 0
  | v :: vs => max (depth v) (depths vs)

/-- How deep the deepest of several entries is nested. -/
def entryDepths : List (Value × Value) → Nat
  | [] => 0
  | e :: es => max (entryDepth e) (entryDepths es)

/-- How deep an entry is nested. -/
def entryDepth : Value × Value → Nat
  | (k, v) => max (depth k) (depth v)

end

end Value

/-! ### Collections -/

/-- The built-in collections, in the order in which an object is compared with them. -/
def Builtin.collections : List Builtin := [.dict, .frozenset, .list, .set, .tuple]

/-- What encloses the items of a built-in collection. -/
def Builtin.frame : Builtin → Frame
  | .dict | .set => { opening := "\x7b", closing := "\x7d" }
  | .frozenset => { opening := "frozenset(\x7b", closing := "\x7d)" }
  | .tuple => { opening := "(", closing := ")" }
  | _ => { opening := "[", closing := "]" }

/-- An empty built-in collection. -/
def Builtin.emptyText : Builtin → String
  | .dict => "\x7b\x7d"
  | .set => "set()"
  | .frozenset => "frozenset()"
  | .tuple => "()"
  | _ => "[]"

namespace World

variable (w : World)

/-! ### Asking an object -/

/-- A name that no object has by intention. -/
def nonsenseName : String := "no object answers to this name"

/-- The name under which an object tells what it consists of. -/
def descriptionName : String := "__rich_repr__"

/-- The object answers to a name. -/
def answersTo (v : Value) (name : String) : Bool := (w.read v name).toOption.isSome

/-- The object tells what it consists of, unless it fails to, or is nothing. -/
def description? (v : Value) : Option Value :=
  let told : Outcome Value := do
    let f ← w.read v descriptionName
    if ← w.isClass w.evaluator v then return .null else w.call f []
  match w.answersTo v nonsenseName, told with
  | true, _ | _, .ok .null | _, .error _ => none
  | false, .ok r => some r

/-- The class of an object is asked, on the way, for fields that nothing here has. -/
def checkFields (v : Value) : Outcome Unit := do
  let c := if ← w.isClass w.evaluator v then v else .cls (w.classOf v)
  let _ ← w.evaluator.readIfAny c "__dataclass_fields__"

/-- The class of an object equals the built-in class of tuples. The class of the class may have a
say in that. -/
def hasTupleClass (v : Value) : Outcome Bool :=
  w.equal w.evaluator (.cls (w.classOf v)) (.cls (.builtin .tuple))

/-- The object is compared with a tuple, unless it fails to answer to the name of its fields. -/
def checkTuple (v : Value) : Outcome Unit :=
  match w.evaluator.readIfAny v "_fields" with
  | .ok _ => do
    let _ ← w.isInstance w.evaluator v [.tuple]
  | .error _ => .ok ()

/-- The object can be compared with the collections: its own class, and the one that it passes
itself off as an object of, are classes that have a hash. -/
def isComparable (v : Value) : Bool :=
  let hasHash (c : ClassRef) : Bool := (w.hash? w.evaluator (.cls c)).toOption.isSome
  match w.read v "__class__" with
  | .ok (.cls c) => hasHash c && hasHash (w.classOf v)
  | _ => false

/-- The built-in collection that an object is. -/
def collection? (v : Value) : Option Builtin :=
  if w.isComparable v then
    Builtin.collections.find? fun b => (w.isInstance w.evaluator v [b]).toOption.getD false
  else none

/-- The class of an object writes its objects in its own way, and not as the built-in collection
does. -/
def isWrittenOtherwise (b : Builtin) (v : Value) : Outcome Bool := do
  let f ← w.read (.cls (w.classOf v)) "__repr__"
  w.differs w.evaluator (.member (.builtin b) "__repr__" .operator) f

/-- The keys and the values of a dictionary as it lists them itself. -/
def listedItems (v : Value) : Outcome (List Value) := do
  w.items w.evaluator (← w.call (← w.read v "items") [])

/-! ### Layouts -/

/-- The literal of an object as a layout. -/
def literalLayout (v : Value) : Layout := .leaf "" (w.literalOrComplaint w.evaluator v)

/-- An entry of a dictionary, of which `lay` lays out the value. -/
def entryLayout (lay : Value → Outcome Layout) (entry : Value) : Outcome Layout := do
  match ← w.unpack w.evaluator 2 entry with
  | [k, v] => return (← lay v).withKey (w.literalOrComplaint w.evaluator k)
  | _ => .error .endless

/-- The items of a collection, of which `lay` lays out each. -/
def itemLayouts (lay : Value → Outcome Layout) (b : Builtin) (v : Value) :
    Outcome (List Layout) := do
  if b = .dict then (← w.listedItems v).mapM (w.entryLayout lay)
  else (← w.items w.evaluator v).mapM lay

/-- A collection, of which `lay` lays out each item. -/
def collectionLayout (lay : Value → Outcome Layout) (b : Builtin) (v : Value) : Outcome Layout := do
  if ← w.isWrittenOtherwise b v then return w.literalLayout v
  else if ← w.truth w.evaluator v then
    let announced ← w.length w.evaluator v
    let items ← w.itemLayouts lay b v
    return .branch "" b.frame announced items
  else return .leaf "" b.emptyText

/-- An object that tells what it consists of, of which `lay` lays out each part. The object may want
to stand between angle brackets. -/
def describedLayout (lay : Value → Outcome Layout) (v told : Value) : Outcome Layout := do
  let e := w.evaluator
  let angular := (← e.readIfAny (← w.read v descriptionName) "angular").getD (.bool false)
  let parts ← w.items e told
  let name ← w.read (← w.read v "__class__") "__name__"
  let isAngular ← w.truth e angular
  let text ← w.formatted e name
  let items ← parts.mapM lay
  return match isAngular, items with
    | true, [] => .leaf "" ("<" ++ text ++ ">")
    | false, [] => .leaf "" (Value.called text "")
    | true, items =>
      .branch "" { opening := "<" ++ text ++ " ", closing := ">", separator := .blank }
        items.length items
    | false, items => .branch "" { opening := text ++ "(", closing := ")" } items.length items

/-- The layout of an object that is nested no deeper than this. -/
def layoutWithin : Nat → Value → Outcome Layout
  | 0, _ => .error .tooDeep
  | depth + 1, v => do
    let lay := layoutWithin depth
    let layout ← match w.description? v with
      | some told => w.describedLayout lay v told
      | none => do
        w.checkFields v
        w.checkTuple v
        match w.collection? v with
        | some b => w.collectionLayout lay b v
        | none => .ok (w.literalLayout v)
    let isTuple ← w.hasTupleClass v
    w.checkTuple v
    return if isTuple then layout.keepingComma else layout

/-- How much deeper than an object the parts may be nested that it tells of. -/
def extraDepth : Nat := 8

/-- The layout of an object. -/
def layout (v : Value) : Outcome Layout := w.layoutWithin (v.depth + extraDepth) v

end World

end Conformance
