import Conformance.Complaint
import Conformance.World

/-!
# What can be asked of an object

Reading an attribute may call a function that a class has for it, and a call may read attributes in
turn. So every operation is written for an `Evaluator`, which stands for the reading, calling and
binding that it needs; one that allows no step complains (`Evaluator.exhausted`). An operation that
a class may define for its objects begins with what the class has for it (`World.special`): nothing,
what a built-in class does, or something of its own, which is bound to the object and called
(`World.callOwn`).
-/

namespace Conformance

/-- The operations that others are built on. -/
structure Evaluator where
  /-- What an object answers to a name. -/
  read : (object : Value) → (name : String) → Outcome Value
  /-- What a call with the given arguments gives. -/
  call : (function : Value) → (arguments : List Value) → Outcome Value
  /-- What becomes of an attribute when it is read on an object, or on a class itself. -/
  bind : (stored : Value) → (self : Option Value) → (cls : ClassRef) → Outcome Value

namespace Evaluator

/-- No operation can be carried out. -/
def exhausted : Evaluator where
  read _ _ := .error .tooDeep
  call _ _ := .error .tooDeep
  bind _ _ _ := .error .tooDeep

variable (e : Evaluator)

/-- What an object answers to a name, if anything. -/
def readIfAny (v : Value) (name : String) : Outcome (Option Value) := (e.read v name).orMissing

/-- What an object answers to a name, or the value that stands for nothing. -/
def readOrNull (v : Value) (name : String) : Outcome Value := do
  return (← e.readIfAny v name).getD .null

end Evaluator

/-- What the class of an object has for a special purpose. -/
inductive Special where
  /-- Nothing. -/
  | absent
  /-- What this built-in class does. -/
  | builtin (b : Builtin)
  /-- Something of its own, as it is stored. -/
  | own (stored : Value)

namespace World

variable (w : World) (e : Evaluator)

/-- What the class of an object has under the name of a special method. -/
def special (v : Value) (name : String) : Special :=
  match w.classAttribute? v name with
  | none => .absent
  | some (.member (.builtin b) _ _) => .builtin b
  | some a => .own a

/-- What a class has for a special purpose, bound to one of its objects. -/
def bindOwn (v stored : Value) : Outcome Value := e.bind stored (some v) (w.classOf v)

/-- What a class has for a special purpose, bound to one of its objects; nothing if it cannot be
bound. -/
def bound? (v stored : Value) : Option Value := (w.bindOwn e v stored).toOption

/-- Calls what a class has for a special purpose on one of its objects. -/
def callOwn (v stored : Value) (arguments : List Value) : Outcome Value := do
  e.call (← w.bindOwn e v stored) arguments

end World

end Conformance
