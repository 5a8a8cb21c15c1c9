import Conformance.World.Call
import Conformance.World.Kind

/-!
# Evaluation

Reading, calling and binding are built on each other, so that one step of one of them may lead to
steps of all. `World.evaluatorWithin` allows for so many steps inside of each other, and
`World.evaluator` for so many as no program needs that is not made for it. With it come the
operations on objects that are used for looking at classes.
-/

namespace Conformance

namespace World

variable (w : World)

/-- The operations as far as they need no more than so many steps inside of each other. -/
def evaluatorWithin : Nat → Evaluator
  | 0 => .exhausted
  | steps + 1 =>
    let e := evaluatorWithin steps
    { read := w.readWith e, call := w.callWith e, bind := w.bindWith e }

/-- How many steps may lead into each other. The limit counts all steps alike. A program counts only
some of them and gets further: two hundred and fifty wrappers inside of each other answer there, and
here they complain that a step leads too deep. -/
def maxDepth : Nat := 400

/-- The operations on the objects of a world. -/
def evaluator : Evaluator := w.evaluatorWithin maxDepth

/-- What an object answers to a name. -/
def read (v : Value) (name : String) : Outcome Value := w.evaluator.read v name

/-- What a call gives. -/
def call (f : Value) (arguments : List Value) : Outcome Value := w.evaluator.call f arguments

/-- An object of a class that is called with an argument, or with none. -/
def instantiate (c : ClassRef) (argument : Option Value) : Outcome Value :=
  w.call (.cls c) argument.toList

/-- The object passes for a text. -/
def isText (v : Value) : Outcome Bool := w.isInstance w.evaluator v [.str]

/-- The name that the class of an object answers. -/
def nameOfType (v : Value) : Outcome String := do
  w.formatted w.evaluator (← w.read (.cls (w.classOf v)) "__name__")

end World

end Conformance
