import Conformance.Resolver
import Conformance.Spec.Parser

/-!
# Predicates

A predicate accepts the subjects that have a method which meets a specification. It also
explains what it found, in words that an assertion passes on.
-/

namespace Conformance

/-- What is given where a specification is expected. -/
inductive SpecArgument where
  /-- A specification. -/
  | spec (s : Spec)
  /-- Some other value; a text is read as a specification. -/
  | value (v : Value)

/-- The subjects that have a method which meets a specification. -/
structure Predicate where
  /-- What is required of the method. -/
  spec : Spec
  /-- What resolves subjects and finds methods. -/
  resolver : Resolver

namespace Predicate

variable (w : World)

/-! ### Building predicates -/

/-- The name of the class of predicates. -/
def className : String := "HasMethod"

/-- The name of the type of specifications. -/
def specTypeName : String := "MethodSpec"

/-- Where a specification text is handed over to a class of predicates. -/
def createContext (className : String) : String :=
  "Argument 1 passed to " ++ className ++ ".create()"

/-- A fault in reading a specification, as the one who handed over the text is told: a break of
the grammar is reported with the text and the place where it was passed. -/
def blame (className text : String) : Fault → Fault
  | .malformedSpec remaining =>
    .invalidSpec (createContext className) text (Fault.malformedSpec remaining).message
      (some remaining)
  | f => f

/-- The predicate for a specification. -/
def ofSpec (s : Spec) (resolver : Option Resolver) : Predicate := ⟨s, w.orReflection resolver⟩

/-- The predicate for what is given as a specification. It must be there, and is asked for the name
of a method at the latest when the predicate is looked at. -/
def ofSpec? (given : SpecArgument) (resolver : Option Resolver) : Except Fault Predicate :=
  match given with
  | .spec s => .ok (ofSpec w s resolver)
  | .value .null => .error .specMissing
  | .value v => .error (.complaint (.noAttribute (w.typeName v) "name"))

/-- The predicate for the specification that a text denotes, made by the named class of
predicates. -/
def ofText (text : String) (resolver : Option Resolver) (maker : String := className) :
    Except Fault Predicate :=
  match Spec.parse text with
  | .ok s => .ok (ofSpec w s resolver)
  | .error f => .error (blame maker text f)

/-- The predicate for an argument that must be a text, made by the named class of
predicates. -/
def create (given : SpecArgument) (resolver : Option Resolver) (maker : String := className) :
    Except Fault Predicate :=
  match given with
  | .value v => do ofText w (← w.specText v) resolver maker
  | .spec _ => .error (.specNotText specTypeName)

/-- The predicate for an argument that is a specification or a text that denotes one. To tell
whether it is a specification, it is asked for its class. -/
def ofArgument (given : SpecArgument) (resolver : Option Resolver) : Except Fault Predicate :=
  match given with
  | .spec s => .ok (ofSpec w s resolver)
  | .value v => do
    let _ ← (World.claimedClass? w.evaluator v).orFault
    create w (.value v) resolver

/-! ### Asking predicates -/

/-- The method that a subject has under the name of the specification. -/
def findMethod (p : Predicate) (subject : Value) : Except Fault (Option Descriptor) := do
  match ← p.resolver.resolve subject with
  | none => .ok none
  | some c => p.resolver.findMethod c p.spec.name

/-- The subject has a method that meets the specification. -/
def holds (p : Predicate) (subject : Value) : Except Fault Bool := do
  match ← p.findMethod subject with
  | none => .ok false
  | some d => .ok (p.spec.accepts d)

/-- The expectation in words. -/
def describe (p : Predicate) : String := "has " ++ p.spec.text ++ "()"

/-- The opposite of the expectation in words. -/
def describeNegated (p : Predicate) : String := "does not have " ++ p.spec.text ++ "()"

/-- What is said of a subject that stands for no class. -/
def unresolvedText : String := "subject cannot be reflected as a class"

/-- What is said of a class that has no method of that name. -/
def missingText (className name : String) : String := className ++ " has no method " ++ name

/-- What is said of a class that has a method of that name. -/
def foundText (className : String) (d : Descriptor) : String := className ++ " has " ++ d.text

/-- What was found on a subject, in words. -/
def explain (p : Predicate) (subject : Value) : Except Fault String := do
  match ← p.resolver.resolve subject with
  | none => .ok unresolvedText
  | some c =>
    match ← p.resolver.findMethod c p.spec.name with
    | none => return missingText (← (w.qualifiedText c).orFault) p.spec.name
    | some d => return foundText (← (w.qualifiedText c).orFault) d

/-- The predicate as a literal. -/
def literal (p : Predicate) : String := className ++ "(" ++ Text.quoted p.spec.text ++ ")"

end Predicate

end Conformance
