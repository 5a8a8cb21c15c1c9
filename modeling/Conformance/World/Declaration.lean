import Conformance.Text.WordChar
import Conformance.World.Evaluation
import Conformance.World.Linearization

/-!
# Declaring classes

A declaration gives the bases of a class, its members and, if need be, the class that it is to
be an object of. `World.declare` adds the class to a world: it merges the ancestors of the
bases, settles the metaclass, completes the members as every class has them and finds out which of
them are left to derived classes. Bases that do not go together declare nothing, nor does a class
to which one of its ancestors objects.
-/

namespace Conformance

/-- A class as it is declared. -/
structure Declaration where
  /-- The identifier of the class in its world. -/
  id : String
  /-- The name of the class. -/
  name : String
  /-- The name of the class with the names of the classes around it. -/
  qualname : String
  /-- The module that the class belongs to. -/
  moduleName : String
  /-- The classes that the class is derived from; none stands for the class `object`. -/
  bases : List ClassRef
  /-- The class that the class is to be an object of. -/
  metaclass : Option ClassRef
  /-- The members that are written in the class. -/
  members : Members
  /-- The text that the objects of the class give of themselves, if the class says so. -/
  display : Option String

namespace Members

/-- The members with one more, in place of one of the same name. -/
def put (ms : Members) (name : String) (a : Value) : Members :=
  (ms.filter fun m => m.1 != name) ++ [(name, a)]

/-- The members with one more, unless there is one of that name. -/
def putNew (ms : Members) (name : String) (a : Value) : Members :=
  if (ms.lookup name).isSome then ms else ms ++ [(name, a)]

/-- A member as the class keeps it: three special functions are wrapped, and a computed attribute
learns its name. -/
def kept : String × Value → String × Value
  | ("__new__", .function gives a f) => ("__new__", .staticMethod (some (.function gives a f)) none)
  | ("__init_subclass__", .function gives a f) =>
    ("__init_subclass__", .classMethod (some (.function gives a f)) none)
  | ("__class_getitem__", .function gives a f) =>
    ("__class_getitem__", .classMethod (some (.function gives a f)) none)
  | (name, .property getter _) => (name, .property getter (some name))
  | (name, .instance c (some (.property getter _))) =>
    (name, .instance c (some (.property getter (some name))))
  | m => m

/-- The objects of a class that says when they are equal have no hash, unless the class says
which. -/
def withHash (ms : Members) : Members :=
  if (ms.lookup "__eq__").isSome then ms.putNew "__hash__" .null else ms

end Members

namespace World

variable (w : World)

/-- The class that a name stands for in a declaration: a declared one before a built-in one. -/
def classNamed? (name : String) : Option ClassRef :=
  if (w.class? name).isSome then some (.declared name)
  else (Builtin.all.find? fun b => b.name == name).map .builtin

/-- The first class is the second or derived from it. -/
def isDerived (c d : ClassRef) : Bool := (w.lineage c).contains d

/-- The more derived of two metaclasses, of which one must be derived from the other. -/
def moreDerived (c d : ClassRef) : Outcome ClassRef :=
  if w.isDerived c d then .ok c else if w.isDerived d c then .ok d else .error .metaclassConflict

/-- The metaclass of a class with the given bases: the most derived one among the one that is
asked for and those of the bases. -/
def settleMetaclass (asked : Option ClassRef) (bases : List ClassRef) : Outcome ClassRef :=
  (bases.map w.metaclass).foldlM w.moreDerived (asked.getD (.builtin .type))

/-- The first class that occurs again. -/
def firstRepeated? : List ClassRef → Option ClassRef
  | [] => none
  | c :: cs => if cs.contains c then some c else firstRepeated? cs

/-- The ancestors of a class with the given bases, the class itself first. -/
def linearize (self : ClassRef) (bases : List ClassRef) : Outcome (List ClassRef) :=
  match firstRepeated? bases, Linearization.merge (bases.map w.lineage ++ [bases]) with
  | some c, _ => .error (.repeatedBase (w.shortName c))
  | none, .ok cs => .ok (self :: cs)
  | none, .error cs => .error (.noOrder (cs.map w.shortName))

/-! ### The shape of objects -/

/-- The class, if it can be a base. -/
def acceptableBase (c : ClassRef) : Outcome ClassRef :=
  match c with
  | .builtin b => if b.isFinal then .error (.finalBase b.messageName) else .ok c
  | .declared _ => .ok c

/-- The one of two bases whose shape extends that of the other. -/
def betterBase (best c : ClassRef) : Outcome ClassRef := do
  let c ← acceptableBase c
  let one := (w.shape best).solid
  let other := (w.shape c).solid
  if w.isDerived one other then return best
  else if w.isDerived other one then return c
  else .error .shapeConflict

/-- The base from which a class takes the shape of its objects: the first one whose shape extends
those of the others. -/
def bestBase : (bases : List ClassRef) → Outcome ClassRef
  | [] => .ok (.builtin .object)
  | c :: cs => do cs.foldlM w.betterBase (← acceptableBase c)

/-- The character can begin a name. -/
def isNameStart (c : Char) : Bool := Text.isWordChar c && (Text.decimalValue? c).isNone

/-- The text can be a name. -/
def isName (s : String) : Bool :=
  (s.toList.head?.map isNameStart).getD false && s.toList.all Text.isWordChar

/-- The name of a place for a value, which is given as a text. -/
def slotName (v : Value) : Outcome String :=
  match w.textOf? v with
  | some s => if isName s then .ok s else .error (.badSlots "__slots__ must be identifiers")
  | none => .error (.badSlots ("__slots__ items must be strings, not '" ++ w.typeName v ++ "'"))

/-- The names for which the objects of a class with this best base are to have a place each, if the
class says so. -/
def slotNames (ms : Members) (best : ClassRef) : Outcome (Option (List String)) :=
  match ms.lookup "__slots__" with
  | none => .ok none
  | some a => do
    let names ← if (w.textOf? a).isSome then .ok [a] else w.toItems w.evaluator a
    if (w.shape best).isVariable && !names.isEmpty then
      .error (.badSlots
        ("nonempty __slots__ not supported for subtype of '" ++ w.messageName best ++ "'"))
    else return some (← names.mapM w.slotName)

/-- The name under which a class called `owner` stores a place that is called `name` in its
declaration. -/
def slotMember (owner name : String) : String :=
  let cs := name.toList
  let bare := owner.toList.dropWhile (· == '_')
  if ['_', '_'].isPrefixOf cs && !(['_', '_'].isSuffixOf cs) && !bare.isEmpty then
    "_" ++ String.ofList bare ++ name
  else name

/-- The room that the objects of a class have beside that of its base. -/
structure AddedRoom where
  /-- The names of the places for values. -/
  slots : List String
  /-- There is room for attributes of any name. -/
  dictionary : Bool
  /-- There is room for weak references. -/
  references : Bool

/-- The place with this name is listed once at most, and not at all unless it may be. -/
def checkSingle (names : List String) (name message : String) (mayAdd : Bool) : Outcome Unit :=
  if names.count name ≤ (if mayAdd then 1 else 0) then .ok () else .error (.badSlots message)

/-- The room that the objects of a class get beside that of its best base. A class that lists
places gets what it lists and what another base has. Any other class gets all that its objects can
have. -/
def addedRoom (ms : Members) (best : ClassRef) (bases : List ClassRef) : Outcome AddedRoom := do
  let shape := w.shape best
  let mayAddDictionary := !shape.hasDictionary
  let mayAddReferences := !shape.hasReferences && !shape.isVariable
  let others := bases.filter (· ≠ best)
  match ← w.slotNames ms best with
  | none => return ⟨[], mayAddDictionary, mayAddReferences⟩
  | some names =>
    checkSingle names "__dict__" "__dict__ slot disallowed: we already got one" mayAddDictionary
    checkSingle names "__weakref__" ("__weakref__ slot disallowed: either we already got one, " ++
      "or __itemsize__ != 0") mayAddReferences
    return ⟨names.filter fun n => n != "__dict__" && n != "__weakref__",
      mayAddDictionary &&
        (names.contains "__dict__" || others.any fun c => (w.shape c).hasDictionary),
      mayAddReferences &&
        (names.contains "__weakref__" || others.any fun c => (w.shape c).hasReferences)⟩

/-- No place has the name under which the class stores something else. -/
def checkSlots (d : Declaration) (room : AddedRoom) : Outcome Unit :=
  let stored := "__module__" :: (d.members.map Prod.fst).filter (· != "__qualname__") ++
    (d.display.map fun _ => "__repr__").toList
  match (room.slots.map (slotMember d.name)).find? stored.contains with
  | some name =>
    .error (.badValue (Text.quoted name ++ " in __slots__ conflicts with class variable"))
  | none => .ok ()

/-- The shape of the objects of a class with this best base and this room beside it. -/
def extendedShape (self best : ClassRef) (room : AddedRoom) : Shape :=
  let shape := w.shape best
  let isLarger := !room.slots.isEmpty || (shape.isVariable && room.dictionary)
  { solid := if isLarger then self else shape.solid
    hasDictionary := shape.hasDictionary || room.dictionary
    hasReferences := shape.hasReferences || room.references
    isVariable := shape.isVariable }

/-! ### The members of a class -/

/-- The members for the room that the objects of a class have. -/
def roomMembers (d : Declaration) (room : AddedRoom) : Members :=
  let self := ClassRef.declared d.id
  let place (name : String) (kind : MemberKind) := (name, Value.member self name kind)
  (room.slots.map fun n => place (slotMember d.name n) .slot) ++
  (if room.dictionary then [place "__dict__" (.computed .dict)] else []) ++
  (if room.references then [place "__weakref__" (.computed .noneType)] else [])

/-- The members of a class, with those that the class has without being asked to. -/
def completeMembers (d : Declaration) (room : AddedRoom) : Members :=
  let written : Members := (d.members.filter fun m => m.1 != "__qualname__").map Members.kept
  let shown : Members :=
    match d.display with
    | some text => written.put "__repr__" (.function (some text) none none)
    | none => written
  let named : Members := (shown.put "__module__" (.str d.moduleName)).putNew "__doc__" .null
  let stored : Members := (roomMembers d room).foldl (fun ms m => ms.putNew m.1 m.2) named
  stored.withHash

/-- The members of a class that keeps account of its abstract methods. -/
def withRegistry (ms : Members) : Members :=
  (ms.put "__abstractmethods__" (.unknown .frozenset)).put "_abc_impl"
    (.unknown .abstractRegistry)

/-! ### Abstract methods -/

/-- What the class has under a name is marked as abstract. -/
def isAbstractMember (c : ClassRef) (name : String) : Outcome Bool := do
  match ← w.evaluator.readIfAny (.cls c) name with
  | some a => w.isMarkedAbstract w.evaluator a
  | none => return false

/-- The names of the methods that a class in this world leaves to derived classes, in order: those
of its own that are marked as abstract and those of its bases that still are. -/
def leftToDerived (o : ClassObject) : Outcome (List String) := do
  let own ← o.members.filterM fun m => w.isMarkedAbstract w.evaluator m.2
  let inherited ← (o.bases.flatMap w.abstractNames).filterM (w.isAbstractMember (.declared o.id))
  return ((own.map Prod.fst ++ inherited).eraseDups).mergeSort fun a b => decide (a ≤ b)

/-! ### Declarations -/

/-- The world with one more class. -/
def withClass (o : ClassObject) : World := { w with classes := w.classes ++ [o] }

/-- The class that a wrapper wraps. -/
def wrappedClass? : Value → Option String
  | .staticMethod (some (.cls (.declared id))) _ => some id
  | .classMethod (some (.cls (.declared id))) _ => some id
  | .staticMethod (some v) _ | .classMethod (some v) _ => wrappedClass? v
  | _ => none

/-- The world when these values have been made. A wrapper asks what it wraps for what is said of the
types in it, and a class that is asked keeps a dictionary of that. -/
def withWrappers (vs : List Value) : World :=
  { w with annotated := w.annotated ++ vs.filterMap wrappedClass? }

/-- The first ancestor that has something to say of the classes that are derived from it is told
of the class. -/
def announce (o : ClassObject) : Outcome Unit :=
  match w.lookup? (o.lineage.drop 1) "__init_subclass__" with
  | none | some (.member (.builtin _) _ _) => .ok ()
  | some a => do
    let _ ← w.call (← w.evaluator.bind a none (.declared o.id)) []

/-- The world with one more class, if the declaration holds together. -/
def declare (d : Declaration) : Outcome World := do
  let bases := if d.bases.isEmpty then [.builtin .object] else d.bases
  let self := ClassRef.declared d.id
  let metaclass ← w.settleMetaclass d.metaclass bases
  let best ← w.bestBase bases
  let room ← w.addedRoom d.members best bases
  checkSlots d room
  let lineage ← w.linearize self bases
  let object : ClassObject := {
    id := d.id, name := d.name, qualname := d.qualname, moduleName := d.moduleName
    lineage, bases, metaclass
    base := best
    shape := w.extendedShape self best room
    members := completeMembers d room
    abstractNames := [] }
  let asked := w.withWrappers (d.members.map Prod.snd)
  let declared := asked.withClass object
  declared.announce object
  if w.derives metaclass .abcMeta then
    let counted := { object with members := withRegistry object.members }
    return asked.withClass { counted with abstractNames := ← declared.leftToDerived object }
  else return declared

end World

end Conformance
