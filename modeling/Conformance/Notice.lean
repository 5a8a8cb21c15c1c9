import Conformance.World.Evaluation

/-!
# Notices

The errors that callers are told about by name, with what they tell of themselves. A notice can
be made from any values, so nothing here assumes that they are texts: an object is written as its
class has it, and that may fail. `Notice.message` puts a notice into words and `Notice.attributes`
lists what it tells.
-/

namespace Conformance

/-- What an assertion that failed has to say. -/
structure Failure where
  /-- The subject, as a text. -/
  subject : Value
  /-- What was expected of the subject. -/
  description : Value
  /-- What was found instead. -/
  reason : Value
  /-- What the caller adds; a value that counts as false adds nothing. -/
  message : Value := .str ""

/-- The text of a failed assertion: the caller's message on lines of its own, if it counts as true,
then the expectation that was not met. -/
def Failure.text (w : World) (f : Failure) : Outcome String := do
  let e := w.evaluator
  let subject ← w.formatted e f.subject
  let description ← w.formatted e f.description
  let sentence := "Failed asserting that " ++ subject ++ " " ++ description ++ "."
  if ← w.truth e f.message then return (← w.formatted e f.message) ++ "\n" ++ sentence
  else return sentence

/-- An error that callers are told about by name. -/
inductive Notice where
  /-- A specification text breaks the grammar; `remaining` is the text from the point on at
  which it does. -/
  | malformedSpec (remaining : Value)
  /-- A text that was to specify a method does not. -/
  | invalidSpec (context spec reason : Value)
  /-- A method name is no identifier. -/
  | invalidName (name : Value)
  /-- A method cannot be required to be abstract and final. -/
  | conflictingModifiers (isAbstract isFinal : Value)
  /-- An assertion failed. -/
  | assertionFailed (failure : Failure)

namespace Notice

/-- The name of the class of errors that all notices belong to. -/
def rootName : String := "MethodCheckError"

/-- The name of the class of errors that the notice is an object of. -/
def className : Notice → String
  | malformedSpec _ => "MethodSpecSyntaxError"
  | invalidSpec .. => "InvalidMethodSpecError"
  | invalidName _ => "InvalidMethodNameError"
  | conflictingModifiers .. => "ConflictingModifiersError"
  | assertionFailed _ => "HasMethodAssertionError"

/-- The name of the built-in class of errors that the notice belongs to as well. -/
def builtinName : Notice → String
  | malformedSpec _ => "SyntaxError"
  | invalidSpec .. | invalidName _ | conflictingModifiers .. => "ValueError"
  | assertionFailed _ => "AssertionError"

/-! ### Words -/

/-- A break of the grammar in words. -/
def malformedText (remaining : String) : String := "syntax error at \"" ++ remaining ++ "\""

/-- A text that does not specify a method, in words. -/
def invalidText (context spec reason : String) : String :=
  context ++ ": must be method specification, '" ++ spec ++ "' (" ++ reason ++ ") given."

/-- A method name that is no identifier, of which the literal is given, in words. -/
def nameText (literal : String) : String := "method name must be identifier, got " ++ literal

/-- A conflict of modifiers in words. -/
def conflictText (isAbstract isFinal : String) : String :=
  "abstract and final are mutually exclusive, got is_abstract=" ++ isAbstract ++
    ", is_final=" ++ isFinal

variable (w : World)

/-- The notice in words. -/
def message (notice : Notice) : Outcome String := do
  let e := w.evaluator
  match notice with
  | malformedSpec remaining => return malformedText (← w.formatted e remaining)
  | invalidSpec context spec reason =>
    return invalidText (← w.formatted e context) (← w.formatted e spec) (← w.formatted e reason)
  | invalidName name => return nameText (← w.literal e name)
  | conflictingModifiers a f => return conflictText (← w.formatted e a) (← w.formatted e f)
  | assertionFailed failure => failure.text w

/-- What the notice tells, by name. -/
def attributes : Notice → List (String × Value)
  | malformedSpec remaining => [("remaining", remaining)]
  | invalidSpec context spec reason =>
    [("context", context), ("spec", spec), ("reason", reason)]
  | invalidName name => [("name", name)]
  | conflictingModifiers a f => [("is_abstract", a), ("is_final", f)]
  | assertionFailed f =>
    [("subject", f.subject), ("description", f.description), ("reason", f.reason),
     ("message", f.message)]

end Notice

end Conformance
