import Conformance.Value

/-!
# Worlds of classes and modules

What there is to be looked at: classes with their own members, their ancestors in order of
lookup and the class that they are themselves an object of; and modules with their members.
Members are found by `World.lookup?` along a list of classes.
-/

namespace Conformance

/-- What a class or a module stores, by names. -/
abbrev Members := List (String × Value)

/-- What the objects of a class have room for. -/
structure Shape where
  /-- The class itself or the nearest ancestor that adds places for values of its own. -/
  solid : ClassRef
  /-- The objects have room for attributes of any name. -/
  hasDictionary : Bool
  /-- The objects have room for weak references to them. -/
  hasReferences : Bool
  /-- The objects differ in size. -/
  isVariable : Bool

/-- A class that a world declares. -/
structure ClassObject where
  /-- The identifier of the class in its world. -/
  id : String
  /-- The name of the class. -/
  name : String
  /-- The name of the class with the names of the classes around it. -/
  qualname : String
  /-- The module that the class belongs to. -/
  moduleName : String
  /-- The class and its ancestors, in order of lookup. -/
  lineage : List ClassRef
  /-- The classes that the class is derived from. -/
  bases : List ClassRef
  /-- The base from which the class takes the shape of its objects. -/
  base : ClassRef
  /-- What the objects of the class have room for. -/
  shape : Shape
  /-- The class that the class is an object of. -/
  metaclass : ClassRef
  /-- The class's own members. -/
  members : Members
  /-- The names of the methods that derived classes have to define. -/
  abstractNames : List String

/-- A module that can be imported. -/
structure Module where
  /-- The dotted name of the module. -/
  name : String
  /-- What the module holds. -/
  members : Members

/-- All classes and modules that are declared. -/
structure World where
  /-- The declared classes. -/
  classes : List ClassObject := []
  /-- The declared modules. -/
  modules : List Module := []
  /-- The identifiers of the classes that keep annotations because they were asked for them. -/
  annotated : List String := []

/-! ### Built-in classes -/

/-- An object of a built-in class, as far as it is known. -/
def Value.ofClass : Builtin → Value
  | .noneType => .null
  | b => .unknown b

namespace Builtin

/-- What a built-in class stores under a name. -/
def attribute? (b : Builtin) (name : String) : Option Value :=
  let named := b.members
  let ofKind (kind : MemberKind) := some (Value.member (.builtin b) name kind)
  if named.operators.contains name then ofKind .operator
  else if named.methods.contains name then ofKind .method
  else if named.classMethods.contains name then ofKind .classMethod
  else if named.hasConstructor && name == "__new__" then ofKind .constructor
  else if named.functions.contains name then ofKind .written
  else if named.statics.contains name then some (.staticMethod (ofKind .free) none)
  else if named.staticFunctions.contains name then some (.staticMethod (ofKind .written) none)
  else if named.properties.contains name then some (.property (ofKind .written) (some name))
  else
    ((named.classwide.lookup name).map fun c => .classMethod (some (.cls (.builtin c))) none).or <|
    ((named.computed.lookup name).bind fun r => ofKind (.computed r)).or <|
    ((named.fields.lookup name).bind fun r => ofKind (.field r)).or <|
    (named.data.lookup name).map Value.ofClass

/-- The names under which a built-in class stores something. -/
def memberNames (b : Builtin) : List String :=
  let named := b.members
  named.operators ++ named.methods ++ named.classMethods ++
  (if named.hasConstructor then ["__new__"] else []) ++ named.functions ++ named.statics ++
  named.staticFunctions ++ named.properties ++ named.classwide.map Prod.fst ++
  named.computed.map Prod.fst ++ named.fields.map Prod.fst ++ named.data.map Prod.fst

/-- The name by which messages call a built-in class. -/
def messageName (b : Builtin) : String :=
  match b with
  | .partialFunction | .abstractRegistry | .genericAlias => b.qualifiedName
  | b => b.name

/-- No class can be derived from the built-in class. -/
def isFinal (b : Builtin) : Bool :=
  match b with
  | .bool | .noneType | .builtinFunction | .function | .boundMethod => true
  | .operatorDescriptor | .methodDescriptor | .classMethodDescriptor | .computedDescriptor => true
  | .fieldDescriptor | .boundOperator | .namespaceView | .code | .abstractRegistry => true
  | _ => false

/-- What the objects of a built-in class have room for. -/
def shape (b : Builtin) : Shape where
  solid := .builtin <| match b with
    | .bool => .int
    | .exception | .valueError => .baseException
    | .abcMeta => .type
    | .partialMethod => .object
    | b => b
  hasDictionary := match b with
    | .type | .abcMeta | .baseException | .exception | .valueError => true
    | .module | .function | .staticMethod | .classMethod => true
    | .partialFunction | .partialMethod => true
    | _ => false
  hasReferences := match b with
    | .type | .abcMeta | .set | .frozenset | .module | .function => true
    | .partialFunction | .partialMethod => true
    | _ => false
  isVariable := match b with
    | .type | .abcMeta | .int | .bool | .bytes | .tuple => true
    | _ => false

end Builtin

namespace World

variable (w : World)

/-- The declared class with this identifier. -/
def class? (id : String) : Option ClassObject := w.classes.find? fun c => c.id == id

/-- The declared module with this name. -/
def module? (name : String) : Option Module := w.modules.find? fun m => m.name == name

/-- The class and its ancestors, in order of lookup. -/
def lineage : ClassRef → List ClassRef
  | .builtin b => b.lineage.map .builtin
  | .declared id => ((w.class? id).map ClassObject.lineage).getD []

/-- The class that a class is an object of. -/
def metaclass : ClassRef → ClassRef
  | .builtin _ => .builtin .type
  | .declared id => ((w.class? id).map ClassObject.metaclass).getD (.builtin .type)

/-- What a class itself stores under a name. -/
def stored? (c : ClassRef) (name : String) : Option Value :=
  match c with
  | .builtin b => b.attribute? name
  | .declared id =>
    ((w.class? id).bind fun o => o.members.lookup name).or
      (if name = "__annotations__" ∧ w.annotated.contains id then some (.dict []) else none)

/-- The names under which a class itself stores something. -/
def memberNames : ClassRef → List String
  | .builtin b => b.memberNames
  | .declared id => ((w.class? id).map fun o => o.members.map Prod.fst).getD []

/-- The classes that a class is derived from. -/
def bases : ClassRef → List ClassRef
  | .builtin b => ((b.lineage.drop 1).head?.map ClassRef.builtin).toList
  | .declared id => ((w.class? id).map ClassObject.bases).getD []

/-- The base of a class from which its objects take their shape. -/
def base? : ClassRef → Option ClassRef
  | .builtin b => (b.lineage.drop 1).head?.map .builtin
  | .declared id => (w.class? id).map ClassObject.base

/-- What the objects of the class have room for. -/
def shape : ClassRef → Shape
  | .builtin b => b.shape
  | .declared id => ((w.class? id).map ClassObject.shape).getD (Builtin.shape .object)

/-- The class is the given built-in class or derived from it. -/
def derives (c : ClassRef) (b : Builtin) : Bool := (w.lineage c).contains (.builtin b)

/-! ### Names -/

/-- The name of a class without its module. -/
def shortName : ClassRef → String
  | .builtin b => b.name
  | .declared id => ((w.class? id).map ClassObject.name).getD id

/-- The name by which messages call a class. -/
def messageName : ClassRef → String
  | .builtin b => b.messageName
  | .declared id => w.shortName (.declared id)

/-- The name of the module that a class belongs to. -/
def moduleName : ClassRef → String
  | .builtin b => b.moduleName
  | .declared id => ((w.class? id).map ClassObject.moduleName).getD ""

/-- The name of a class with the names of the classes around it. -/
def qualname : ClassRef → String
  | .builtin b => b.name
  | .declared id => ((w.class? id).map ClassObject.qualname).getD id

/-- The name of a class as the class itself is written: in full, but short in the module
`builtins`. -/
def fullName (c : ClassRef) : String :=
  if w.moduleName c = "builtins" then w.shortName c else w.moduleName c ++ "." ++ w.qualname c

/-! ### Lookup -/

/-- What the first of the given classes that stores something under the name stores there. -/
def lookup? (cs : List ClassRef) (name : String) : Option Value :=
  cs.findSome? fun c => w.stored? c name

/-- The class of a value. -/
def classOf : Value → ClassRef
  | .cls c => w.metaclass c
  | .instance c _ => c
  | v => .builtin v.builtinClass

/-- What the class of a value stores under a name, or the first of its ancestors that does. -/
def classAttribute? (v : Value) (name : String) : Option Value :=
  w.lookup? (w.lineage (w.classOf v)) name

/-- The name of the type of a value, as messages give it. -/
def typeName (v : Value) : String := w.messageName (w.classOf v)

/-- The value can be called: some class in the lineage of its own has a member for that. -/
def isCallable (v : Value) : Bool := (w.classAttribute? v "__call__").isSome

/-- The value is an object of the built-in class or of a class derived from it. -/
def isA (v : Value) (b : Builtin) : Bool := w.derives (w.classOf v) b

/-- The text that an object is, if its class is the class of texts or derived from it. -/
def textOf? : Value → Option String
  | .str s => some s
  | .instance c content =>
    if w.derives c .str then
      match content with
      | some (.str s) => some s
      | _ => some ""
    else none
  | _ => none

end World

end Conformance
