import Conformance.Predicate
import Conformance.World.Exposition

/-!
# Assertions

An assertion expects of a subject that a predicate holds, or that it does not. If the
expectation fails, the failure tells the subject, the expectation and what was found, behind what
the caller adds.
-/

namespace Conformance

namespace World

variable (w : World)

/-- A text between the quotation marks in which a failure tells names. -/
def quotedName (s : String) : String := "'" ++ s ++ "'"

/-- A subject as a failure tells it: a text or the name of a class between quotation marks, any
other value laid out. -/
def exportText (v : Value) : Outcome String := do
  let e := w.evaluator
  if ← w.isText v then return quotedName (← w.formatted e v)
  else if ← w.isClass e v then return quotedName (← w.qualifiedText v)
  else return (← w.layout v).render

/-- The failure of a predicate on a subject. -/
def failure (p : Predicate) (subject : Value) (description : String) (message : Value) :
    Except Fault Failure := do
  let told ← (w.exportText subject).orFault
  let reason ← p.explain w subject
  .ok ⟨.str told, .str description, .str reason, message⟩

/-- Fails with a failure, once that is put into words. -/
def fail (f : Failure) : Except Fault Unit := do
  .error (.assertionFailed f (← (f.text w).orFault))

/-- Expects that the subject has a method as specified. -/
def assertHas (resolver : Option Resolver) (given : SpecArgument) (subject : Value)
    (message : Value) : Except Fault Unit := do
  let p ← Predicate.ofArgument w given resolver
  if ← p.holds subject then .ok ()
  else w.fail (← w.failure p subject p.describe message)

/-- Expects that the subject has no method as specified. -/
def assertHasNot (resolver : Option Resolver) (given : SpecArgument) (subject : Value)
    (message : Value) : Except Fault Unit := do
  let p ← Predicate.ofArgument w given resolver
  if ← p.holds subject then w.fail (← w.failure p subject p.describeNegated message)
  else .ok ()

end World

end Conformance
