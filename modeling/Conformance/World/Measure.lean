import Conformance.World.Evaluator

/-!
# Measures

The integer that an object stands for, the number of its items, and whether it counts as true. A
class may say so with methods of its own, which must give an integer or a truth value.
-/

namespace Conformance

namespace Value

/-- The number of items of a collection. -/
def size : Value → Nat
  | str s => s.length
  | bytes bs | bytearray bs => bs.length
  | list vs | tuple vs | set vs | frozenset vs => vs.length
  | dict es => es.length
  | _ => 1

end Value

namespace World

variable (w : World) (e : Evaluator)

/-- The integer that an object stands for. -/
def index (v : Value) : Outcome Int :=
  match v.core.toInt? with
  | some n => .ok n
  | none =>
    match w.special v "__index__" with
    | .own f => do
      let r ← w.callOwn e v f []
      match r.core.toInt? with
      | some n => .ok n
      | none => .error (.wrongResult "__index__" "int" (w.typeName r))
    | _ => .error (.notInteger (w.typeName v))

/-- The greatest length. -/
def maxLength : Int := 9223372036854775807

/-- The number of items of an object. -/
def length (v : Value) : Outcome Int :=
  match w.special v "__len__" with
  | .absent => .error (.noLength (w.typeName v))
  | .builtin _ => .ok v.core.size
  | .own f => do
    let n ← w.index e (← w.callOwn e v f [])
    if n < 0 then .error .negativeLength
    else if maxLength < n then .error .lengthOverflow
    else .ok n

/-- The object counts as true. -/
def truth (v : Value) : Outcome Bool :=
  match w.special v "__bool__" with
  | .builtin _ => .ok v.core.isTruthy
  | .own f => do
    match ← w.callOwn e v f [] with
    | .bool b => .ok b
    | r => .error (.truthExpected (w.typeName r))
  | .absent =>
    match w.special v "__len__" with
    | .absent => .ok true
    | _ => do return (← w.length e v) ≠ 0

end World

end Conformance
