import Conformance.Handover
import Conformance.Spec
import Conformance.Text.Blank

/-!
# Reading specifications

A specification text is an identifier alone, or clauses in any order, the word `function` and
an identifier:

    spec   := name | clause* "function" name
    clause := ["!"] ("abstract" | "final" | "static" | "public" | "protected" | "private")

Blanks may stand before every word of the long form. Each word ends at a word boundary, so
only words that begin with an exclamation mark may follow another one directly. A category of
clauses occurs at most once, and abstract and final do not occur together unless both are
negated. Reading stops at the first place where the text cannot go on, and the text from there
on is reported.
-/

namespace Conformance

namespace Spec

/-- The clause of the given ones that the text starts with, and the text after it. -/
def readClauseAmong? (ks : List Clause) (cs : List Char) : Option (Clause × List Char) :=
  ks.findSome? fun k => (Text.readWord? k.keyword.toList cs).map (Prod.mk k)

/-- The clause of one of the given categories that the text starts with, and the text after
it. -/
def readClause? (pending : List Category) (cs : List Char) : Option (Clause × List Char) :=
  pending.findSome? fun c => readClauseAmong? c.clauses cs

/-- Reads at most `rounds` clauses, each of a category that is still pending, and adds them to
the constraints. A clause that conflicts with the constraints is reported. -/
def readClauses : (rounds : Nat) → (pending : List Category) → Constraints → List Char →
    Except (List Char) (Constraints × List Char)
  | 0, _, k, cs => .ok (k, cs)
  | rounds + 1, pending, k, cs =>
    let cs := Text.trimStart cs
    match readClause? pending cs with
    | none => .ok (k, cs)
    | some (clause, rest) =>
      if (k.add clause).conflicting then .error cs
      else readClauses rounds (pending.erase clause.category) (k.add clause) rest

/-- The word between the clauses and the name. -/
def functionWord : List Char := "function".toList

/-- Reads the long form: clauses, the word `function` and a name. -/
def readLong (cs : List Char) : Except (List Char) (Constraints × List Char) := do
  let (k, cs) ← readClauses Category.all.length Category.all {} cs
  let cs := Text.trimStart cs
  match Text.readWord? functionWord cs with
  | none => .error cs
  | some cs =>
    let cs := Text.trimStart cs
    match Text.readIdentifier? cs with
    | none => .error cs
    | some (name, []) => .ok (k, name)
    | some (_, rest) => .error rest

/-- Reads the constraints and the name that a text gives. -/
def read (cs : List Char) : Except (List Char) (Constraints × List Char) :=
  if Text.isIdentifier cs then .ok ({}, cs) else readLong cs

/-- The specification that a text denotes. -/
def parse (text : String) : Except Fault Spec :=
  match read text.toList with
  | .error remaining => .error (.malformedSpec (String.ofList remaining))
  | .ok (k, name) => ofConstraints (String.ofList name) k

/-- The specification that a value denotes, which must be a text. -/
def ofValue (w : World) (v : Value) : Except Fault Spec := do parse (← w.specText v)

end Spec

end Conformance
