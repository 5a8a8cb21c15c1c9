import Conformance.World.Binding

/-!
# Reading attributes

What an object answers when it is asked for an attribute by name (`World.readWith`). A class is
asked along its ancestors and along those of its metaclass, a module is asked itself, and any other
object along the ancestors of its class. What is found there is bound to the object. Attributes that
control what is stored under their name come before what the object itself stores, and all others
after that. A class may have a method of its own that answers to all names, and one that answers to
the names that are not found.
-/

namespace Conformance

/-- What an object itself stores under the names of marks. -/
def mark? (isAbstract isFinal : Option Value) (name : String) : Option Value :=
  if name = abstractMark then isAbstract else if name = finalMark then isFinal else none

/-- What a partly filled method stores itself. -/
def partialMethodMember? : String → Option Value
  | "func" => some (.function none none none)
  | "args" => some (.unknown .tuple)
  | "keywords" => some (.unknown .dict)
  | _ => none

/-- What the function that a partly filled method gives on the class itself stores. -/
def unboundPartialMember? (name : String) : Option Value :=
  if name = abstractMark then some (.bool false)
  else if name = "_partialmethod" then some .partialMethod
  else none

/-- What every module stores, under these names. -/
def commonModuleMember? (moduleName name : String) : Option Value :=
  match name with
  | "__name__" => some (.str moduleName)
  | "__doc__" | "__package__" | "__loader__" | "__spec__" => some .null
  | _ => none

/-- What is built in under a name, cut to the classes and the functions that are named in
`Builtin.isNamed` and `Builtin.functionNames`, the constants and what every module has. -/
def builtinNamed? (name : String) : Option Value :=
  match Builtin.ofName? name with
  | some b => some (.cls (.builtin b))
  | none =>
    if Builtin.functionNames.contains name then some (.builtinFunction name)
    else match name with
      | "True" => some (.bool true)
      | "False" => some (.bool false)
      | "None" => some .null
      | "__name__" => some (.str "builtins")
      | "__package__" => some (.str "")
      | "__doc__" => some (.unknown .str)
      | _ => none

namespace World

variable (w : World) (e : Evaluator)

/-! ### What an object stores itself -/

/-- What a module stores under a name. -/
def moduleMember? (m name : String) : Option Value :=
  if m = "builtins" then builtinNamed? name
  else ((w.module? m).bind fun m => m.members.lookup name).or (commonModuleMember? m name)

/-- What a wrapper has copied from what it wraps. -/
def copiedMember? (wrapped : Option Value) (name : String) : Option Value :=
  if copiedNames.contains name then wrapped.bind fun v => (e.read v name).toOption else none

/-- What an object of a declared class stores of the built-in value that it extends. -/
def extensionMember? (content : Value) (name : String) : Option Value :=
  match content with
  | .staticMethod wrapped _ | .classMethod wrapped _ => copiedMember? e wrapped name
  | .property getter _ =>
    if name = "__doc__" then getter.bind fun g => (e.read g name).toOption else none
  | .module m => commonModuleMember? m name
  | _ => none

/-- What an object itself stores under a name. -/
def own? (v : Value) (name : String) : Option Value :=
  match v with
  | .function _ isAbstract isFinal | .partialFunction isAbstract isFinal =>
    mark? isAbstract isFinal name
  | .member (.builtin .partialMethod) member .written =>
    if member = unboundName then unboundPartialMember? name else none
  | .bound .partialFunction _ self => if name = "__self__" then some self else none
  | .staticMethod wrapped isFinal | .classMethod wrapped isFinal =>
    (mark? none isFinal name).or (copiedMember? e wrapped name)
  | .partialMethod => partialMethodMember? name
  | .module m => w.moduleMember? m name
  | .instance _ (some content) => extensionMember? e content name
  | _ => none

/-! ### Reading -/

/-- What an object answers to a name of which it stores `own` itself. -/
def readObject (v : Value) (own : Option Value) (name : String) : Outcome Value :=
  match w.classAttribute? v name, own with
  | some d, none => e.bind d (some v) (w.classOf v)
  | some d, some a =>
    if w.isBinding d && w.isControlling d then e.bind d (some v) (w.classOf v) else .ok a
  | none, some a => .ok a
  | none, none => .error (.noAttribute (w.typeName v) name)

/-- What a class answers to a name. -/
def readClass (c : ClassRef) (name : String) : Outcome Value :=
  match w.classAttribute? (.cls c) name, w.lookup? (w.lineage c) name with
  | some d, none => e.bind d (some (.cls c)) (w.metaclass c)
  | some d, some a =>
    if w.isBinding d && w.isControlling d then e.bind d (some (.cls c)) (w.metaclass c)
    else e.bind a none c
  | none, some a => e.bind a none c
  | none, none => .error (.classHasNone (w.messageName c) name)

/-- What a module answers to a name. An object that the module stores as `__getattr__` is called
for all names that the module does not know. -/
def readModule (m name : String) : Outcome Value :=
  match w.readObject e (.module m) (w.moduleMember? m name) name with
  | .ok a => .ok a
  | .error c =>
    if c.isMissing then
      match w.moduleMember? m "__getattr__" with
      | some f => e.call f [.str name]
      | none => .error (.moduleHasNone (some m) name)
    else .error c

/-- What a method answers to a name: what its class has, or what the function answers. -/
def readBound (f self : Value) (name : String) : Outcome Value :=
  let v := Value.bound .boundMethod f self
  match w.classAttribute? v name with
  | some d => e.bind d (some v) (w.classOf v)
  | none => e.read f name

/-- What an object answers to a name as its built-in class has it. -/
def readBuiltin (v : Value) (name : String) : Outcome Value :=
  match v with
  | .cls c => w.readClass e c name
  | .module m => w.readModule e m name
  | .bound .boundMethod f self => w.readBound e f self name
  | v => w.readObject e v (w.own? e v name) name

/-- What an object answers to a name, before it is asked for names that are not found. -/
def readFirst (v : Value) (name : String) : Outcome Value :=
  match w.special v "__getattribute__" with
  | .own f => w.callOwn e v f [.str name]
  | _ => w.readBuiltin e v name

/-- What an object answers to a name. -/
def readWith (v : Value) (name : String) : Outcome Value :=
  match w.readFirst e v name, w.classAttribute? v "__getattr__" with
  | .error c, some f => if c.isMissing then w.callOwn e v f [.str name] else .error c
  | r, _ => r

end World

end Conformance
