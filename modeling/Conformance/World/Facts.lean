import Conformance.World.Measure

/-!
# What is computed from an object

A built-in class has members under which an object tells of itself: a class its name and its
ancestors, a method the function that it binds, a wrapper what it wraps. `World.fact` gives what
such a member answers; where no more is known of an answer than its class, it is an object of that
class. A member of a built-in class tells what it is for and which parameters it has, or does not
(`isDocumented`, `isSigned`).
-/

namespace Conformance

/-- The name of the mark of a method that derived classes have to define. -/
def abstractMark : String := "__isabstractmethod__"

/-- The name of the mark of a method that may not be redefined. -/
def finalMark : String := "__final__"

/-- The names under which a wrapper stores what it finds on what it wraps. -/
def copiedNames : List String :=
  ["__module__", "__name__", "__qualname__", "__doc__", "__annotations__"]

/-- The member of a class tells what it is for. -/
def isDocumented (owner : ClassRef) (name : String) : MemberKind → Bool
  | .operator | .constructor | .free => true
  | .method | .classMethod =>
    match owner with
    | .builtin b => !b.members.undocumented.contains name
    | .declared _ => true
  | .computed _ | .field _ =>
    match owner with
    | .builtin b => b.members.documented.contains name
    | .declared _ => true
  | .slot => false
  | .written => owner = .builtin .abcMeta

/-- The member of a class tells of its parameters. -/
def isSigned (owner : ClassRef) (name : String) : Bool :=
  match owner with
  | .builtin b => !b.members.unsigned.contains name
  | .declared _ => true

/-- The written functions of built-in classes that have values for parameters which are left
out. -/
def hasDefaults (name : String) : Bool := ["_dump_registry", "__get__"].contains name

/-- The name of the function that a partly filled method gives on the class itself. -/
def unboundName : String := "_method"

/-- The function that a partly filled method gives on the class itself. -/
def Value.unboundPartial : Value := .member (.builtin .partialMethod) unboundName .written

/-- A text of which no more is known, or nothing. -/
def textIf (b : Bool) : Value := if b then .unknown .str else .null

/-- What a member of a class tells of itself under a name. -/
def memberFact (owner : ClassRef) (member : String) (kind : MemberKind) (name : String)
    (result : Builtin) : Value :=
  match name, kind with
  | "__objclass__", _ => .cls owner
  | "__doc__", _ => textIf (isDocumented owner member kind)
  | "__text_signature__", _ => textIf (isSigned owner member)
  | "__self__", .constructor => .cls owner
  | "__self__", _ | "__module__", .constructor | "__module__", .free => .null
  | "__defaults__", _ => if hasDefaults member then .unknown .tuple else .null
  | "__closure__", _ => if member = unboundName then .unknown .tuple else .null
  | _, _ => .ofClass result

namespace World

variable (w : World) (e : Evaluator)

/-- The object is marked as abstract: what it answers to the name of the mark counts as true. -/
def isMarkedAbstract (v : Value) : Outcome Bool := do
  match ← e.readIfAny v abstractMark with
  | none => return false
  | some mark => w.truth e mark

/-- What is wrapped, if anything, is marked as abstract. -/
def isInnerAbstract : Option Value → Outcome Bool
  | none => .ok false
  | some v => w.isMarkedAbstract e v

/-! ### Classes -/

/-- The built-in classes that tell what they are for by a member for their objects. -/
def explainedByMember : Builtin → Bool
  | .builtinFunction | .boundOperator | .operatorDescriptor | .methodDescriptor => true
  | .classMethodDescriptor | .computedDescriptor | .fieldDescriptor => true
  | _ => false

/-- What a class stores itself under a name, as it is read on the class. -/
def storedOnClass (c : ClassRef) (name : String) : Outcome Value :=
  match w.stored? c name with
  | some a => e.bind a none c
  | none => .ok .null

/-- What a class is for. -/
def purpose (c : ClassRef) : Outcome Value :=
  match c with
  | .declared _ => w.storedOnClass e c "__doc__"
  | .builtin b =>
    if explainedByMember b then w.storedOnClass e c "__doc__"
    else .ok (textIf (b ≠ .noneType ∧ b ≠ .namespaceView))

/-- The built-in class can be given attributes that it does not have. -/
def isExtensible (b : Builtin) : Bool :=
  [Builtin.abcMeta, .partialFunction, .partialMethod, .abstractRegistry].contains b

/-- What is said of the types in a class; a class that says nothing keeps an empty dictionary. -/
def annotations (c : ClassRef) : Outcome Value :=
  match c, w.stored? c "__annotations__" with
  | .declared _, some a => e.bind a none c
  | .declared _, none => .ok (.dict [])
  | .builtin b, _ =>
    if isExtensible b then .ok (.dict [])
    else .error (.classHasNone (w.messageName c) "__annotations__")

/-- The built-in classes that tell of their parameters. -/
def signedClasses : List Builtin :=
  [.object, .float, .complex, .list, .tuple, .module, .function, .boundMethod, .property, .code]

/-- What a class tells of itself under a name. -/
def classFact (c : ClassRef) (name : String) (result : Builtin) : Outcome Value :=
  match name, c with
  | "__name__", _ => .ok (.str (w.shortName c))
  | "__qualname__", _ => .ok (.str (w.qualname c))
  | "__module__", _ => .ok (.str (w.moduleName c))
  | "__base__", _ => .ok (((w.base? c).map Value.cls).getD .null)
  | "__bases__", _ => .ok (.tuple ((w.bases c).map .cls))
  | "__mro__", _ => .ok (.tuple ((w.lineage c).map .cls))
  | "__dict__", _ => .ok (.namespaceView c)
  | "__doc__", _ => w.purpose e c
  | "__annotations__", _ => w.annotations e c
  | "__abstractmethods__", .declared _ =>
    match w.stored? c name with
    | some a => .ok a
    | none => .error (.unset name)
  | "__abstractmethods__", .builtin _ => .error (.unset name)
  | "__text_signature__", _ =>
    .ok (textIf (signedClasses.any fun b => c = .builtin b))
  | _, _ => .ok (.ofClass result)

/-! ### Other objects -/

/-- What a function with the object that it was read on tells of itself under a name. -/
def boundFact (kind : Builtin) (f self : Value) (name : String) (result : Builtin) :
    Outcome Value :=
  match name, kind, f with
  | "__self__", _, _ => .ok self
  | "__func__", _, _ | "func", _, _ => .ok f
  | "__doc__", .boundMethod, _ => e.read f name
  | "__module__", .builtinFunction, _ => .ok .null
  | _, _, .member owner member k => .ok (memberFact owner member k name result)
  | _, _, _ => .ok (.ofClass result)

/-- What a computed attribute tells of itself under a name. -/
def propertyFact (getter : Option Value) (name : String) (result : Builtin) : Outcome Value :=
  match name with
  | "fget" => .ok (getter.getD .null)
  | "__isabstractmethod__" => do return .bool (← w.isInnerAbstract e getter)
  | "__doc__" =>
    match getter with
    | some g => e.readOrNull g name
    | none => .ok .null
  | _ => .ok (.ofClass result)

/-- What a wrapper tells of itself under a name. -/
def wrapperFact (wrapped : Option Value) (name : String) (result : Builtin) : Outcome Value :=
  match name with
  | "__func__" | "__wrapped__" => .ok (wrapped.getD .null)
  | "__isabstractmethod__" => do return .bool (← w.isInnerAbstract e wrapped)
  | _ => .ok (.ofClass result)

/-- What a built-in value tells of itself under a name. -/
def contentFact (v : Value) (name : String) (result : Builtin) : Outcome Value :=
  match v with
  | .cls c => w.classFact e c name result
  | .bound kind f self => boundFact e kind f self name result
  | .property getter _ => w.propertyFact e getter name result
  | .staticMethod wrapped _ | .classMethod wrapped _ => w.wrapperFact e wrapped name result
  | .partialFunction _ _ =>
    .ok (if name = "func" then .function none none none else .ofClass result)
  | .builtinFunction _ => .ok (if name = "__self__" then .module "builtins" else .ofClass result)
  | .member owner member kind => .ok (memberFact owner member kind name result)
  | .arguments vs => .ok (if name = "args" then .tuple vs else .ofClass result)
  | .module m =>
    .ok <| if name = "__annotations__" then
        ((w.module? m).bind fun m => m.members.lookup name).getD (.dict [])
      else .ofClass result
  | _ => .ok (.ofClass result)

/-- What an object tells of itself under a name for which the class `owner` has a member; at best
it is of the class `result`. -/
def fact (self : Value) (owner : ClassRef) (name : String) (result : Builtin) : Outcome Value :=
  if owner = .builtin .object then .ok (.cls (w.classOf self))
  else w.contentFact e self.core name result

end World

end Conformance
