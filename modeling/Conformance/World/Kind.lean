import Conformance.World.Evaluator

/-!
# Kinds of objects

An object belongs to a class if its own class is that class or derived from it, or if it passes
itself off as an object of such a class by what it answers to the name of its class.
-/

namespace Conformance

namespace World

variable (w : World) (e : Evaluator)

/-- The class that an object passes itself off as an object of. -/
def claimedClass? (v : Value) : Outcome (Option ClassRef) := do
  match ← e.readIfAny v "__class__" with
  | some (.cls c) => return some c
  | _ => return none

/-- The object belongs to one of the built-in classes. The classes are tried in turn. -/
def isInstance (v : Value) : List Builtin → Outcome Bool
  | [] => .ok false
  | b :: bs => do
    if w.isA v b then return true
    else if ((← claimedClass? e v).map fun c => w.derives c b).getD false then return true
    else isInstance v bs

/-- The object is a class, or passes itself off as one. -/
def isClass (v : Value) : Outcome Bool := w.isInstance e v [.type]

end World

end Conformance
