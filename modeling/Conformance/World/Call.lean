import Conformance.Text.Split
import Conformance.World.Access
import Conformance.World.Construction

/-!
# Calls

What a call gives (`World.callWith`). A class makes an object, a method calls its function with the
object in front, a wrapper calls what it wraps, and a built-in function does its work, of which only
what is needed for looking at classes is known. An object of a declared class is called by a method
of its own.
-/

namespace Conformance

/-! ### Functions of texts -/

/-- The text before the first occurrence of a character, that character and what is behind it; the
text alone if the character does not occur. -/
def partitionAt (separator : Char) (s : String) : List String :=
  match s.toList.span (· != separator) with
  | (_, []) => [s, "", ""]
  | (front, c :: rest) => [String.ofList front, String.singleton c, String.ofList rest]

/-- The pieces of a text between the occurrences of a character. -/
def piecesAt (separator : Char) (s : String) : List String :=
  (Text.splitOn separator s.toList).map String.ofList

/-- A text without the separator is a single piece. -/
theorem piecesAt_of_not_mem {separator : Char} {x : String} (h : separator ∉ x.toList) :
    piecesAt separator x = [x] := by
  rw [piecesAt, Text.splitOn_of_not_mem h]
  simp

/-- Pieces without the separator are found again. -/
theorem piecesAt_intercalate {separator : Char} {pieces : List String} (hne : pieces ≠ [])
    (h : ∀ a ∈ pieces, separator ∉ a.toList) :
    piecesAt separator ((String.singleton separator).intercalate pieces) = pieces := by
  have hsplit : Text.splitOn separator (Text.joinWith separator (pieces.map String.toList)) =
      pieces.map String.toList := Text.splitOn_joinWith (by simpa using hne) (by simpa using h)
  rw [piecesAt, String.toList_intercalate, String.toList_singleton, Text.intercalate_eq_joinWith,
    hsplit, List.map_map]
  simp

/-- What is in front of a separator and what is behind it are divided on their own. -/
theorem piecesAt_append (separator : Char) (x y : String) :
    piecesAt separator (x ++ String.singleton separator ++ y) =
      piecesAt separator x ++ piecesAt separator y := by
  have h : (x ++ String.singleton separator ++ y).toList = x.toList ++ separator :: y.toList := by
    simp
  rw [piecesAt, h, Text.splitOn_append, List.map_append]
  rfl

/-- The text without the occurrences of a character at its beginning. -/
def trimmedOf (c : Char) (s : String) : String := String.ofList (s.toList.dropWhile (· == c))

/-- What a method of a text gives for a separator of one character. -/
def textMethod? (name : String) (s : String) (separator : Char) : Option Value :=
  match name with
  | "partition" => some (.tuple ((partitionAt separator s).map .str))
  | "split" => some (.list ((piecesAt separator s).map .str))
  | "lstrip" => some (.str (trimmedOf separator s))
  | _ => none

namespace World

variable (w : World) (e : Evaluator)

/-- The result of a built-in function of which no more is known. -/
def unknownResult : Value := .unknown .object

/-- The function that makes a class with abstract methods needs three arguments beside the class
that it is for. -/
def makeAbstractBase (arguments : List Value) : Outcome Value :=
  let name := "ABCMeta.__new__()"
  match arguments.drop 1 with
  | [] => .error (.badArguments
      (name ++ " missing 3 required positional arguments: 'name', 'bases', and 'namespace'"))
  | [_] => .error (.badArguments
      (name ++ " missing 2 required positional arguments: 'bases' and 'namespace'"))
  | [_, _] => .error (.badArguments
      (name ++ " missing 1 required positional argument: 'namespace'"))
  | [a, b, c] => w.makeClass [a, b, c]
  | vs => .error (.badArguments (name ++ " takes 4 positional arguments but " ++
      toString (vs.length + 1) ++ " were given"))

/-- What a member of a built-in class gives that is called with an object and other arguments. -/
def callMember (owner : Builtin) (name : String) (kind : MemberKind) (arguments : List Value) :
    Outcome Value :=
  if kind = .method ∧ arguments.isEmpty then .error (.unboundMethod owner.messageName name)
  else
    match owner, arguments.map Value.core with
  | .str, [.str s, .str separator] =>
    .ok ((separator.toList.head?.bind (textMethod? name s)).getD unknownResult)
  | .dict, [.dict es] =>
    .ok <| match name with
      | "items" => .list (es.map fun entry => .tuple [entry.1, entry.2])
      | "keys" => .list (es.map Prod.fst)
      | _ => unknownResult
  | .abcMeta, _ => if name = "__new__" then w.makeAbstractBase arguments else .ok unknownResult
  | .partialMethod, _ => .ok (if name = abstractMark then .bool false else .null)
  | b, _ => if kind = .constructor then w.make e b (.builtin b) arguments else .ok unknownResult

/-- What a built-in function gives. -/
def callFunction (name : String) (arguments : List Value) : Outcome Value :=
  match name, arguments with
  | "len", [v] => do return .int (← w.length e v)
  | "len", vs => .error (.badArguments
      ("len() takes exactly one argument (" ++ toString vs.length ++ " given)"))
  | "print", vs => do
    let _ ← vs.mapM (w.text e)
    return .null
  | _, _ => .ok unknownResult

/-- What a function gives that was read on an object. -/
def callBound (kind : Builtin) (f self : Value) (arguments : List Value) : Outcome Value :=
  match kind, f with
  | .boundMethod, _ => e.call f (self :: arguments)
  | .partialFunction, _ => e.call f arguments
  | _, .member (.builtin b) name k => w.callMember e b name k (self :: arguments)
  | _, _ => .ok unknownResult

/-- What a built-in object gives that is called. -/
def callContent (v : Value) (arguments : List Value) : Outcome Value :=
  match v with
  | .cls c => w.construct e c arguments
  | .function gives _ _ => .ok ((gives.map Value.str).getD .null)
  | .partialFunction _ _ => .ok .null
  | .builtinFunction name => w.callFunction e name arguments
  | .staticMethod (some f) _ => e.call f arguments
  | .staticMethod none _ => .error (.emptyWrapper v.typeName)
  | .bound kind f self => w.callBound e kind f self arguments
  | .member (.builtin b) name kind => w.callMember e b name kind arguments
  | _ => .ok unknownResult

/-- What a call gives. -/
def callWith (f : Value) (arguments : List Value) : Outcome Value :=
  match w.special f "__call__" with
  | .absent => .error (.notCallable (w.typeName f))
  | .own g => w.callOwn e f g arguments
  | .builtin _ => w.callContent e f.core arguments

end World

end Conformance
