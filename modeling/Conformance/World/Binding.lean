import Conformance.World.Facts

/-!
# Binding attributes

What becomes of an attribute of a class when it is read on an object of the class, or on the class
itself (`World.bindWith`). A function becomes a method, a wrapper gives what it wraps, a getter is
called, and a member of a built-in class that is computed gives what the object tells. An object of
a declared class may have a method of its own for that purpose. All other objects stay as they are.
-/

namespace Conformance

/-- The value that stands for nothing where there is no object. -/
def Value.ofOption (v : Option Value) : Value := v.getD .null

namespace World

variable (w : World) (e : Evaluator)

/-- The object controls what is stored under its name on the objects of a class: its own class has
a method for setting or for deleting. -/
def isControlling (stored : Value) : Bool :=
  let has (name : String) : Bool := (w.classAttribute? stored name).isSome
  has "__set__" || has "__delete__"

/-- The object becomes something else when it is read. -/
def isBinding (stored : Value) : Bool := (w.classAttribute? stored "__get__").isSome

/-- A method on the class, of what a wrapper wraps. -/
def bindToClass (wrapped : Option Value) (wrapper : Value) (cls : ClassRef) : Outcome Value :=
  match wrapped with
  | none => .error (.emptyWrapper (w.typeName wrapper))
  | some f =>
    if w.isBinding f then e.bind f (some (.cls cls)) cls
    else .ok (.bound .boundMethod f (.cls cls))

/-- What a getter gives for an object. -/
def runGetter (getter : Option Value) (name : Option String) (self : Value) : Outcome Value :=
  match getter with
  | none => .error (.noGetter name (w.qualname (w.classOf self)))
  | some g => e.call g [self]

/-- A member of a built-in class as it is read on an object, or on a class. -/
def bindMember (self : Option Value) (cls owner : ClassRef) (name : String) (kind : MemberKind) :
    Outcome Value :=
  let whole := Value.member owner name kind
  match kind, self with
  | .constructor, _ | .free, _ => .ok whole
  | .classMethod, _ => .ok (.bound .builtinFunction whole (.cls cls))
  | _, none => .ok whole
  | .operator, some s => .ok (.bound .boundOperator whole s)
  | .method, some s => .ok (.bound .builtinFunction whole s)
  | .written, some s => .ok (.bound .boundMethod whole s)
  | .computed r, some s | .field r, some s => w.fact e s owner name r
  | .slot, some _ => .error (.unset name)

/-- A built-in object as it is read, which `stored` is or extends. -/
def bindContent (stored content : Value) (self : Option Value) (cls : ClassRef) : Outcome Value :=
  match content, self with
  | .function _ _ _, some s => .ok (.bound .boundMethod stored s)
  | .property _ _, none => .ok stored
  | .property getter name, some s => w.runGetter e getter name s
  | .staticMethod (some f) _, _ => .ok f
  | .staticMethod none _, _ => .error (.emptyWrapper (w.typeName stored))
  | .classMethod f _, _ => w.bindToClass e f stored cls
  | .partialMethod, some s =>
    .ok (.bound .partialFunction (.bound .boundMethod (.function none none none) s) s)
  | .partialMethod, none => .ok .unboundPartial
  | .member owner name kind, self => w.bindMember e self cls owner name kind
  | _, _ => .ok stored

/-- An attribute of a class as it is read on an object of the class, or on the class itself. -/
def bindWith (stored : Value) (self : Option Value) (cls : ClassRef) : Outcome Value :=
  match w.special stored "__get__" with
  | .absent => .ok stored
  | .builtin _ => w.bindContent e stored stored.core self cls
  | .own f => e.call f [stored, .ofOption self, .cls cls]

end World

end Conformance
