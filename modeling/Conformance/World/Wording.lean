import Conformance.Value.Literal
import Conformance.World.Measure

/-!
# How the objects of a world are written

A class may have methods of its own that write its objects: as a literal, as a text, or inside of
another text. Each must give a text. Otherwise the built-in class that an object extends decides.
`World.naming` gathers what the literal of a value needs to know of the world.
-/

namespace Conformance

namespace World

variable (w : World) (e : Evaluator)

/-- The text that a method of the given name has given. -/
def textGiven (method : String) (r : Value) : Outcome String :=
  match w.textOf? r with
  | some s => .ok s
  | none => .error (.wrongResult method "string" (w.typeName r))

/-- What a method of its own for literals gives for an object; if the method cannot be bound, the
object is written as one of which nothing is known. -/
def saidOfItself (v stored : Value) : Outcome Value :=
  match w.bound? e v stored with
  | some f => e.call f []
  | none => .ok (.str (Value.objectText (w.typeName v)))

/-- What an object says of itself with a method of its own for literals. -/
def ownLiteral? (v : Value) : Outcome (Option String) :=
  match w.special v "__repr__" with
  | .own f => do return some (← w.textGiven "__repr__" (← w.saidOfItself e v f))
  | _ => .ok none

/-- How values are written as far as modules are not asked. -/
def namingOf (own? : Value → Outcome (Option String)) : Value.Naming where
  short := w.messageName
  full := w.fullName
  own? := own?

/-- An object as a literal; what a module answers is not looked at. -/
def plainLiteral (v : Value) : Outcome String := v.literalIn? (w.namingOf (w.ownLiteral? e))

/-- The value is not the one that stands for nothing. -/
def isSomething : Value → Bool
  | .null => false
  | _ => true

/-- What is said of a module behind its name: where it comes from, or what loads it. -/
def originText (origin loader : Value) (located : Outcome Value) : Outcome String := do
  if isSomething origin then
    if ← w.truth e (← located) then return " from " ++ (← w.plainLiteral e origin)
    else return " (" ++ (← w.plainLiteral e origin) ++ ")"
  else if isSomething loader then return " (" ++ (← w.plainLiteral e loader) ++ ")"
  else return ""

/-- A module as a literal: by what it tells of where it comes from, or else by its name and its
file. -/
def moduleLiteral (m : Value) : Outcome String := do
  let loader ← e.readOrNull m "__loader__"
  let origin ← e.readOrNull m "__spec__"
  if ← w.truth e origin then
    let name ← e.read origin "name"
    let literal ← if isSomething name then w.plainLiteral e name else .ok (Text.quoted "?")
    let behind ← w.originText e (← e.read origin "origin") (← e.read origin "loader")
      (e.read origin "has_location")
    return Value.moduleText literal behind
  else
    let name := (← e.readIfAny m "__name__").getD (.str "?")
    match ← e.readIfAny m "__file__" with
    | some file =>
      return Value.moduleText (← w.plainLiteral e name) (" from " ++ (← w.plainLiteral e file))
    | none =>
      return Value.moduleText (← w.plainLiteral e name)
        (← w.originText e .null loader (.ok .null))

/-- What an object says of itself: with a method of its own, or as modules do. -/
def ownText? : Value → Outcome (Option String)
  | .module "builtins" => .ok (some (Value.moduleText (Text.quoted "builtins") " (built-in)"))
  | v => do
    match ← w.ownLiteral? e v, v.core with
    | none, .module _ | none, .unknown .module => return some (← w.moduleLiteral e v)
    | own, _ => return own

/-- How the values of this world are written. -/
def naming : Value.Naming := w.namingOf (w.ownText? e)

/-- An object as a literal. -/
def literal (v : Value) : Outcome String := v.literalIn? (w.naming e)

/-- An object as a literal, or the complaint that there is none. -/
def literalOrComplaint (v : Value) : String := v.literalIn (w.naming e)

/-- A built-in value as a text. -/
def contentText (v : Value) : Outcome String :=
  match v with
  | .str s | .instance _ (some (.str s)) => .ok s
  | .instance _ (some (.bytes bs)) => .ok (Text.quotedBytes bs)
  | .instance c (some (.bytearray bs)) =>
    .ok (Value.called (w.messageName c) (Text.quotedBuffer bs))
  | .instance _ (some (.arguments [])) => .ok ""
  | .instance _ (some (.arguments [v])) => do
    w.textGiven "__str__" (← e.call (.cls (.builtin .str)) [v])
  | .instance _ (some (.arguments vs)) => w.literal e (.tuple vs)
  | v => w.literal e v

/-- An object as a text. One that is written as all objects are gives its literal, but what it says
of itself counts as a text. -/
def text (v : Value) : Outcome String :=
  match v, w.special v "__str__", w.special v "__repr__" with
  | .str s, _, _ => .ok s
  | v, .own f, _ => do w.textGiven "__str__" (← w.callOwn e v f [])
  | v, .builtin .object, .own f => do w.textGiven "__str__" (← w.saidOfItself e v f)
  | v, .builtin .object, _ => w.literal e v
  | v, _, _ => w.contentText e v

/-- An object inside of another text. -/
def formatted (v : Value) : Outcome String :=
  match v, w.special v "__format__" with
  | .str s, _ => .ok s
  | v, .own f => do
    let r ← w.callOwn e v f [.str ""]
    match w.textOf? r with
    | some s => .ok s
    | none => .error (.formatExpected (w.typeName r))
  | v, _ => w.text e v

end World

end Conformance
