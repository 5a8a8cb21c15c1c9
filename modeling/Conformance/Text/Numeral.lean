import Conformance.Text.Blank
import Conformance.Text.DecimalDigit

/-!
# Decimal numerals

Integers as people write them: an optional sign and decimal digits of any script, with single
underscores between digits, and blanks around the whole. A numeral has at most
`maxDigits` digits, leading zeros included. `readInteger` reads one.
-/

namespace Conformance.Text

/-- Why a text is no numeral. -/
inductive NumeralFault where
  /-- The text is not written as a numeral. -/
  | malformed
  /-- The numeral has more digits than are read. -/
  | tooManyDigits (count : Nat)
  deriving DecidableEq, Repr

/-- The most digits that a numeral may have. -/
def maxDigits : Nat := 4300

/-- The most characters that are repeated of what is no numeral. -/
def maxShown : Nat := 200

/-- As much as is repeated of a literal that is no numeral. -/
def shown (literal : String) : String := String.ofList (literal.toList.take maxShown)

/-- A blank that may stand around a numeral: any but the four separator controls. -/
def isNumeralBlank (c : Char) : Bool := isBlank c && !(0x1c ≤ c.toNat && c.toNat ≤ 0x1f)

/-- The digits at the start of a text, by their values, and the text after them. There is at
least one digit, and an underscore stands between two digits. -/
def readDigits : List Char → Option (List Nat × List Char)
  | [] => none
  | c :: cs =>
    match decimalValue? c, cs with
    | none, _ => none
    | some d, [] => some ([d], [])
    | some d, '_' :: rest => (readDigits rest).map fun r => (d :: r.1, r.2)
    | some d, e :: rest =>
      if (decimalValue? e).isSome then (readDigits (e :: rest)).map fun r => (d :: r.1, r.2)
      else some ([d], e :: rest)

/-- The number that digits stand for, the most significant first. -/
def ofDigits (ds : List Nat) : Nat := ds.foldl (fun n d => 10 * n + d) 0

/-- The sign at the start of a text, if any, and the text after it; `true` is minus. -/
def readSign : List Char → Bool × List Char
  | '-' :: cs => (true, cs)
  | '+' :: cs => (false, cs)
  | cs => (false, cs)

/-- The integer that a text denotes. A malformed start is found first, then the number of
digits, then what follows the digits. -/
def readInteger (cs : List Char) : Except NumeralFault Int :=
  let (negative, body) := readSign (cs.dropWhile isNumeralBlank)
  match readDigits body with
  | none => .error .malformed
  | some (ds, rest) =>
    if maxDigits < ds.length then .error (.tooManyDigits ds.length)
    else if rest.all isNumeralBlank then
      .ok (if negative then -(ofDigits ds : Int) else (ofDigits ds : Int))
    else .error .malformed

end Conformance.Text
