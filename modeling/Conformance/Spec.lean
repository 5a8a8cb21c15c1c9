import Conformance.Fault
import Conformance.Text.Identifier

/-!
# Specifications of a method

A specification names a method and may require it to be static or not, to have some
visibility, to be abstract or not and to be final or not. What it does not mention is left
open. No method can be abstract and final, so a specification that sets both flags must set
them to false (`Constraints.conflicting`).

`Spec.create` builds a specification from parts that need not fit, `Spec.text` writes one in
words, in a fixed order.
-/

namespace Conformance

/-- Abstract and final are both set, and not both to false. -/
def conflicting : Option Bool → Option Bool → Bool
  | some a, some f => a || f
  | _, _ => false

/-- What a specification requires of a method beside its name. -/
structure Constraints where
  /-- Whether the method is called on the class. -/
  isStatic : Option Bool := none
  /-- Which visibilities are admitted. -/
  access : Option Access := none
  /-- Whether the method has yet to be defined by a derived class. -/
  isAbstract : Option Bool := none
  /-- Whether derived classes may not redefine the method. -/
  isFinal : Option Bool := none
  deriving DecidableEq, Repr

namespace Constraints

/-- No method can satisfy the flags for abstract and final. -/
def conflicting (k : Constraints) : Bool := Conformance.conflicting k.isAbstract k.isFinal

/-- The constraints with one more clause. -/
def add (k : Constraints) : Clause → Constraints
  | .flag .abstract b => { k with isAbstract := some b }
  | .flag .final b => { k with isFinal := some b }
  | .flag .static b => { k with isStatic := some b }
  | .access a => { k with access := some a }

/-- The clauses that the constraints consist of: final, abstract, access, static. -/
def clauses (k : Constraints) : List Clause :=
  (k.isFinal.map (Clause.flag .final)).toList ++
  (k.isAbstract.map (Clause.flag .abstract)).toList ++
  (k.access.map Clause.access).toList ++
  (k.isStatic.map (Clause.flag .static)).toList

end Constraints

/-- What is required of a method: its name and, where given, its modifiers. -/
structure Spec extends Constraints where
  /-- The name of the method. -/
  name : String
  /-- The name is an identifier. -/
  isIdentifier_name : Text.isIdentifier name.toList = true
  /-- The method is not required to be both abstract and final. -/
  consistent : toConstraints.conflicting = false
  deriving DecidableEq

/-- What is given for the access constraint of a specification. -/
inductive AccessArgument where
  /-- Nothing: every visibility is admitted. -/
  | absent
  /-- An access constraint. -/
  | access (a : Access)
  /-- Some other value. -/
  | other (v : Value)

namespace Spec

/-- The specification with this name and these constraints, if they make one. -/
def ofConstraints (name : String) (k : Constraints) : Except Fault Spec :=
  if hn : Text.isIdentifier name.toList = true then
    if hk : k.conflicting = false then .ok ⟨k, name, hn, hk⟩
    else .error (.conflictingModifiers k.isAbstract k.isFinal)
  else .error (.invalidName (.str name))

/-- Builds a specification from parts that need not fit. The name is checked first, then the
access constraint, then the flags against each other. -/
def create (name : Value) (isStatic : Option Bool) (access : AccessArgument)
    (isAbstract isFinal : Option Bool) : Except Fault Spec :=
  match name with
  | .str s =>
    if Text.isIdentifier s.toList then
      match access with
      | .absent => ofConstraints s ⟨isStatic, none, isAbstract, isFinal⟩
      | .access a => ofConstraints s ⟨isStatic, some a, isAbstract, isFinal⟩
      | .other v => .error (.accessExpected v)
    else .error (.invalidName name)
  | _ => .error (.invalidName name)

/-- A clause in words, with the blank after it. -/
def clauseText (k : Clause) : String := k.keyword ++ " "

/-- The clauses in words. -/
def clausesText (ks : List Clause) : String := String.join (ks.map clauseText)

/-- The specification in words, such as `final public static method foo`. -/
def text (s : Spec) : String := clausesText s.clauses ++ "method " ++ s.name

/-- An access constraint as a literal. -/
def accessLiteral : Option Access → String
  | none => "None"
  | some a => "<Access." ++ a.label ++ ": " ++ Text.quoted a.keyword ++ ">"

/-- The specification as a literal, with all its parts. -/
def literal (s : Spec) : String :=
  "MethodSpec(name=" ++ Text.quoted s.name ++
    ", is_static=" ++ (Fault.flagValue s.isStatic).literal ++
    ", access=" ++ accessLiteral s.access ++
    ", is_abstract=" ++ (Fault.flagValue s.isAbstract).literal ++
    ", is_final=" ++ (Fault.flagValue s.isFinal).literal ++ ")"

end Spec

/-- The access constraint that a value names. -/
def Access.ofValue : Value → Except Fault Access
  | .str s =>
    match Access.ofKeyword? s with
    | some a => .ok a
    | none => .error (.unknownAccess (.str s))
  | v => .error (.unknownAccess v)

end Conformance
