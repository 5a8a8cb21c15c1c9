import Conformance.Fault

/-!
# Texts that are handed over

A text may be handed over as an object of a class that is derived from the class of texts.
`World.patternText` is the text of an object that is searched for a pattern, and `World.specText`
the text in which an object specifies a method.

## Honest scope

The name of a method that is specified by such an object is the object itself, so that its class may
have a say whenever the name is looked up, compared or written. That is left out: `World.specText`
reads an object whose class leaves all of this to the class of texts (`World.isUsualText`). Of any
other text, and of one of which it is not known what it says, it is left open what becomes of it.
-/

namespace Conformance

namespace World

variable (w : World)

/-- The text of an object that is searched for a pattern. -/
def patternText (v : Value) : Except Fault String :=
  match w.textOf? v with
  | some text => .ok text
  | none =>
    if w.isA v .str then .error (.textUnsettled (w.typeName v))
    else if w.isA v .bytes || w.isA v .bytearray then .error .bytesGiven
    else .error (.textExpected (w.typeName v))

/-! ### Usual texts -/

/-- The names under which the class of a text is asked while the text specifies a method. -/
def textMethods : List String :=
  ["__class__", "__getattribute__", "__bool__", "__len__", "__eq__", "__hash__", "__str__",
   "__format__", "lstrip", "startswith", "endswith"]

/-- Both are the same member of a built-in class, or both are missing. -/
def isSameMember : Option Value → Option Value → Bool
  | none, none => true
  | some (.member c m k), some (.member d n l) => c = d ∧ m = n ∧ k = l
  | _, _ => false

/-- The class of an object has for the methods of texts what the class of texts has. -/
def isUsualText (v : Value) : Bool :=
  textMethods.all fun name =>
    isSameMember (w.classAttribute? v name) (w.classAttribute? (.str "") name)

/-! ### Specifications -/

/-- The text in which a value specifies a method. -/
def specText (v : Value) : Except Fault String := do
  if ← (w.isText v).orFault then
    let text ← w.patternText v
    if w.isUsualText v then .ok text else .error (.textUnsettled (w.typeName v))
  else .error (.specNotText (← (w.nameOfType v).orFault))

end World

end Conformance
