import Conformance.ImportPath
import Conformance.Lookup

/-!
# Resolvers

A resolver says which class a subject stands for and which methods a class has. Reflection
(`World.reflection`) looks at the world: a class stands for itself, a text for the class that
it names, and any other object for its class, unless that is a class of scalars. A registry
knows classes by texts of its own, and a stub knows a single class and its methods.

A resolver may count as false, as an empty registry does.
-/

namespace Conformance

/-- What resolves subjects and finds methods. -/
structure Resolver where
  /-- The class that a subject stands for, or what passes for a class. -/
  resolve : Value → Except Fault (Option Value)
  /-- The method that a class has under a name. -/
  findMethod : Value → String → Except Fault (Option Descriptor)
  /-- The resolver counts as true. -/
  isTruthy : Bool := true

/-- The classes of scalars: an object of one of them, or of a class derived from one, stands
for no class. -/
def Builtin.scalars : List Builtin := [.noneType, .bool, .int, .float, .complex, .bytes, .bytearray]

namespace World

variable (w : World)

/-- The class that a subject stands for. -/
def resolve (v : Value) : Outcome (Option Value) := do
  if ← w.isClass w.evaluator v then return some v
  else if ← w.isText v then w.importClass? v
  else if ← w.isInstance w.evaluator v Builtin.scalars then return none
  else return some (.cls (w.classOf v))

/-- The resolver that looks at the world. -/
def reflection : Resolver where
  resolve v := (w.resolve v).orFault
  findMethod := w.findMethod

/-- The class that is registered for a text, which is looked up by its hash. -/
def registered? (entries : List (String × ClassRef)) (v : Value) : Outcome (Option Value) := do
  if ← w.isText v then
    match ← w.hash? w.evaluator v, w.textOf? v with
    | none, some s => return (entries.lookup s).map .cls
    | _, _ => return none
  else return none

/-- The resolver that knows classes by the given texts. -/
def registry (entries : List (String × ClassRef)) : Resolver where
  resolve v := (w.registered? entries v).orFault
  findMethod := w.findMethod
  isTruthy := !entries.isEmpty

/-- The resolver for which every text stands for one class with the given methods; of methods
with the same name the last counts. -/
def stub (c : ClassRef) (methods : List Descriptor) : Resolver where
  resolve v := (w.isText v).orFault.map fun b => if b then some (.cls c) else none
  findMethod _ name := .ok (methods.reverse.find? fun d => d.name == name)

/-- The resolver that is used when this one is supplied: reflection stands in for one that is
missing or counts as false. -/
def orReflection : Option Resolver → Resolver
  | some r => if r.isTruthy then r else w.reflection
  | none => w.reflection

/-! ### Names of classes -/

/-- The name of a class with its module, as the class answers them; a class of the module `builtins`
goes without it. -/
def qualifiedName (c : Value) : Outcome Value := do
  let e := w.evaluator
  let moduleName ← w.read c "__module__"
  if ← w.equal e moduleName (.str "builtins") then w.read c "__qualname__"
  else
    let before ← w.formatted e (← w.read c "__module__")
    let behind ← w.formatted e (← w.read c "__qualname__")
    return .str (before ++ "." ++ behind)

/-- The name of a class with its module, as it is put into a sentence. -/
def qualifiedText (c : Value) : Outcome String := do
  w.formatted w.evaluator (← w.qualifiedName c)

end World

end Conformance
