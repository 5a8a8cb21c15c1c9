import Conformance.Number.Shortest
import Conformance.Text.Numeral

/-!
# Floating-point numerals

Numbers with a point and an exponent as people write them. `readFloat?` reads one: a sign,
digits with a point among them and an exponent after them, or a word for what is infinite or no
number; blanks may stand around it, and single underscores between digits. `floatLiteral` writes
a number with the fewest digits that read back, and `readComplex?` and `complexLiteral` do the
same for complex numbers.
-/

namespace Conformance.Text

open Number

/-! ### Reading -/

/-- A character of a numeral: a digit of any script is taken for the ASCII one. -/
def asciiDigit (c : Char) : Char :=
  match decimalValue? c with
  | some d => Char.ofNat (0x30 + d)
  | none => c

/-- The text without the underscores between digits; any other underscore is a fault. -/
def dropUnderscores : (previous : Char) → List Char → Option (List Char)
  | previous, [] => if previous = '_' then none else some []
  | previous, c :: cs =>
    if c = '_' then if previous.isDigit then dropUnderscores c cs else none
    else if previous = '_' ∧ !c.isDigit then none
    else (dropUnderscores c cs).map (c :: ·)

/-- The text without the blanks around it, with ASCII digits and without underscores. -/
def normalize? (cs : List Char) : Option (List Char) :=
  let rest := cs.dropWhile isNumeralBlank
  dropUnderscores ' ' ((rest.reverse.dropWhile isNumeralBlank).reverse.map asciiDigit)

/-- The value of ASCII digits. -/
def digitsValue (cs : List Char) : Nat := ofDigits (cs.map fun c => c.toNat - 0x30)

/-- The text after a word, in whatever letters. -/
def readWordAnyCase? (word cs : List Char) : Option (List Char) :=
  if (cs.take word.length).map Char.toLower = word then some (cs.drop word.length) else none

/-- The exponent at the start of a text, and the text after it. -/
def readExponent (cs : List Char) : Int × List Char :=
  match cs with
  | [] => (0, [])
  | c :: rest =>
    let (negative, body) := readSign rest
    let digits := body.takeWhile Char.isDigit
    if (c = 'e' ∨ c = 'E') ∧ digits ≠ [] then
      (Binary64.signed negative (digitsValue digits), body.drop digits.length)
    else (0, cs)

/-- The number at the start of a text, and the text after it. -/
def readFloatPrefix? (cs : List Char) : Option (Binary64 × List Char) :=
  let (negative, body) := readSign cs
  let whole := body.takeWhile Char.isDigit
  let afterWhole := body.drop whole.length
  let fraction := match afterWhole with
    | '.' :: rest => rest.takeWhile Char.isDigit
    | _ => []
  let afterFraction := match afterWhole with
    | '.' :: rest => rest.drop fraction.length
    | _ => afterWhole
  if whole ≠ [] ∨ fraction ≠ [] then
    let (e, rest) := readExponent afterFraction
    some (.ofDecimal negative (digitsValue (whole ++ fraction)) (e - fraction.length), rest)
  else
    match readWordAnyCase? "infinity".toList body with
    | some rest => some (.infinite negative, rest)
    | none =>
      match readWordAnyCase? "inf".toList body with
      | some rest => some (.infinite negative, rest)
      | none => (readWordAnyCase? "nan".toList body).map fun rest => (.nan, rest)

/-- The number that a text denotes. -/
def readFloat? (cs : List Char) : Option Binary64 := do
  let text ← normalize? cs
  match ← readFloatPrefix? text with
  | (x, []) => some x
  | _ => none

/-- The letter of the imaginary unit. -/
def isUnit (c : Char) : Bool := c == 'j' || c == 'J'

/-- The text after the imaginary unit. -/
def readUnit? : List Char → Option (List Char)
  | c :: cs => if isUnit c then some cs else none
  | [] => none

/-- One or minus one, as the sign in front of the imaginary unit says. -/
def unitFactor (negative : Bool) : Binary64 := .ofInt (if negative then -1 else 1)

/-- A complex number that begins with the number `x`, of which the text `cs` is left. -/
def readComplexAfter? (x : Binary64) (cs : List Char) :
    Option ((Binary64 × Binary64) × List Char) :=
  match cs with
  | [] => some ((x, .zero), [])
  | c :: rest =>
    if c = '+' ∨ c = '-' then
      match readFloatPrefix? cs with
      | some (y, rest) => (readUnit? rest).map fun rest => ((x, y), rest)
      | none => (readUnit? rest).map fun rest => ((x, unitFactor (c = '-')), rest)
    else if isUnit c then some ((.zero, x), rest)
    else some ((x, .zero), cs)

/-- The complex number at the start of a text, and the text after it. -/
def readComplexPrefix? (cs : List Char) : Option ((Binary64 × Binary64) × List Char) :=
  match readFloatPrefix? cs with
  | some (x, rest) => readComplexAfter? x rest
  | none =>
    let (negative, body) := readSign cs
    (readUnit? body).map fun rest => ((.zero, unitFactor negative), rest)

/-- The complex number that a text denotes, perhaps between parentheses. -/
def readComplex? (cs : List Char) : Option (Binary64 × Binary64) := do
  match ← normalize? cs with
  | '(' :: inner =>
    let (z, rest) ← readComplexPrefix? (inner.dropWhile isNumeralBlank)
    if rest.dropWhile isNumeralBlank = [')'] then some z else none
  | text =>
    let (z, rest) ← readComplexPrefix? text
    if rest = [] then some z else none

/-! ### Writing -/

/-- How a number is written: the powers of ten of the first digit from which on, and up to which,
it is written without an exponent, and whether an integer has a point and a zero behind it. -/
structure FloatFormat where
  /-- The least power of ten of the first digit without an exponent. -/
  leastPlain : Int := -4
  /-- The greatest power of ten of the first digit without an exponent. -/
  greatestPlain : Int := 15
  /-- An integer has a point and a zero behind it. -/
  pointed : Bool := true

/-- An exponent: a sign and at least two digits. -/
def exponentText (e : Int) : List Char :=
  'e' :: (if e < 0 then '-' else '+') :: (Nat.toDigits 10 e.natAbs).leftpad 2 '0'

/-- Digits with a point behind the first `n` of them, if others follow. -/
def pointAfter (n : Nat) (ds : List Char) : List Char :=
  if ds.length ≤ n then ds else ds.take n ++ '.' :: ds.drop n

/-- The digits of a number that is not negative. -/
def magnitudeText (f : FloatFormat) (m : Nat) (e : Int) : List Char :=
  let x := if m = 0 then ⟨0, 0⟩ else shortest m e
  let ds := Nat.toDigits 10 x.digits
  let first : Int := x.exponent + ds.length - 1
  if f.leastPlain ≤ first ∧ first ≤ f.greatestPlain then
    if 0 ≤ x.exponent then
      ds ++ List.replicate x.exponent.toNat '0' ++ (if f.pointed then ['.', '0'] else [])
    else if 0 ≤ first then pointAfter (first.toNat + 1) ds
    else '0' :: '.' :: List.replicate ((-first).toNat - 1) '0' ++ ds
  else pointAfter 1 ds ++ exponentText first

/-- A minus for a number that is negative. -/
def signText (negative : Bool) : List Char := if negative then ['-'] else []

/-- A number in the given format. -/
def floatText (f : FloatFormat) : Binary64 → List Char
  | .finite s m e => signText s ++ magnitudeText f m e
  | .infinite s => signText s ++ "inf".toList
  | .nan => "nan".toList

/-- The literal of a floating-point number. -/
def floatLiteral (x : Binary64) : String := String.ofList (floatText {} x)

/-- How the parts of a complex number are written. -/
def partFormat : FloatFormat where
  pointed := false

/-- The literal of a complex number: both parts between parentheses, or the imaginary one alone
if the real one is zero. -/
def complexLiteral (re im : Binary64) : String :=
  let imText := floatText partFormat im
  if !re.isTruthy && re.isPositive then String.ofList (imText ++ ['j'])
  else
    let joined := if im.isPositive then '+' :: imText else imText
    String.ofList ('(' :: floatText partFormat re ++ joined ++ ['j', ')'])

end Conformance.Text
