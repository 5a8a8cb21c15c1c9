import Conformance.Descriptor
import Conformance.World.Evaluation

/-!
# Finding methods

The name of a member tells its visibility: two leading underscores make it private, one makes
it protected, and names with two underscores on both sides are public again. A private member
may be stored under a name that carries the class's own (`mangle`).

`World.definitionAmong?` finds what the first class in the lineage that knows the name stores
under it, `World.traits?` says whether that is a method and of which kind, and
`World.findMethod` puts both into a descriptor.
-/

namespace Conformance

/-- The visibility that a name stands for. -/
def Visibility.ofName (name : String) : Visibility :=
  let cs := name.toList
  if ['_', '_'].isPrefixOf cs then
    if ['_', '_'].isSuffixOf cs then .pub else .priv
  else if ['_'].isPrefixOf cs then .prot
  else .pub

/-- The name under which a class stores its private member `name`, by the name of the class without
the underscores at its beginning. -/
def mangleWith (bareOwner name : String) : String := "_" ++ bareOwner ++ name

/-- The name under which a class called `owner` stores its private member `name`. -/
def mangle (owner name : String) : String := mangleWith (trimmedOf '_' owner) name

namespace World

variable (w : World)

/-- The name under which a class stores its private member `name`, as the class is called by what it
answers itself. -/
def mangled (owner : Value) (name : String) : Outcome String := do
  let called ← w.read owner "__name__"
  let bare ← w.call (← w.read called "lstrip") [.str "_"]
  return mangleWith (← w.formatted w.evaluator bare) name

/-! ### Kinds of attributes -/

/-- The attribute is marked as abstract: what it answers to the name of the mark counts as
true. -/
def isAbstract (a : Value) : Outcome Bool := w.isMarkedAbstract w.evaluator a

/-- The attribute is marked as final: what it answers to the name of the mark is the value true
and no other. -/
def isMarkedFinal (a : Value) : Outcome Bool := do
  match ← w.evaluator.readIfAny a finalMark with
  | some (.bool true) => return true
  | _ => return false

/-- One of the two is marked as final; the second is asked only if the first is not. -/
def isEitherFinal (a f : Value) : Outcome Bool := do
  if ← w.isMarkedFinal a then return true else w.isMarkedFinal f

/-- The traits of the method that an attribute is, if it is one: a static or class-wide
wrapper, or anything that can be called and is no class. The mark for final counts on a
wrapper and on what it wraps. -/
def traits? (a : Value) : Outcome (Option Traits) := do
  if ← w.isInstance w.evaluator a [.staticMethod, .classMethod] then
    let f ← w.read a "__func__"
    return some ⟨true, ← w.isAbstract a, ← w.isEitherFinal a f⟩
  else if ← w.isClass w.evaluator a then return none
  else if w.isCallable a then return some ⟨false, ← w.isAbstract a, ← w.isMarkedFinal a⟩
  else return none

/-- The descriptor of the method that an attribute is, if it is one. -/
def describe (name : String) (a : Value) (v : Visibility) : Except Fault (Option Descriptor) := do
  match ← (w.traits? a).orFault with
  | none => .ok none
  | some t => (Descriptor.create name v t).map some

/-! ### Lookup along the lineage -/

/-- What an object keeps under names. -/
def namespaceOf (owner : Value) : Outcome Value := do
  match ← w.evaluator.readIfAny owner "__dict__" with
  | some members => return members
  | none => .error .noNamespace

/-- What a class itself stores under a name. The name as it is comes first; a private name may
also be stored mangled. -/
def ownDefinition? (owner : Value) (name : String) : Outcome (Option Value) := do
  let members ← w.namespaceOf owner
  if ← w.contains w.evaluator members name then
    return some (← w.item w.evaluator members (.str name))
  else if Visibility.ofName name = .priv then
    let key ← w.mangled owner name
    if ← w.contains w.evaluator members key then
      return some (← w.item w.evaluator members (.str key))
    else return none
  else return none

/-- What the first of the classes that knows the name stores under it. -/
def definitionAmong? (name : String) : List Value → Outcome (Option Value)
  | [] => .ok none
  | owner :: owners => do
    match ← w.ownDefinition? owner name with
    | some a => return some a
    | none => definitionAmong? name owners

/-- The descriptor of the method that the first of the classes that knows the name stores under
it. What comes after that class does not count, even if the name stands for no method there. -/
def findMethodAmong (owners : List Value) (name : String) : Except Fault (Option Descriptor) := do
  match ← (w.definitionAmong? name owners).orFault with
  | none => .ok none
  | some a => w.describe name a (.ofName name)

/-- The class and its ancestors, as the class answers itself. -/
def ancestors (c : Value) : Outcome (List Value) := do
  w.items w.evaluator (← w.read c "__mro__")

/-- The descriptor of the method that a class has under a name. -/
def findMethod (c : Value) (name : String) : Except Fault (Option Descriptor) := do
  w.findMethodAmong (← (w.ancestors c).orFault) name

end World

end Conformance
