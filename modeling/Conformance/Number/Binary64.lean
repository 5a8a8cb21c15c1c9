import Conformance.Number.Rounding

/-!
# Binary floating-point numbers

Numbers with 53 significant binary digits and exponents from -1074 to 971, as computers keep
them: a sign, an integer and a power of two; beside them two infinities and a value that is no
number. `ofRatio` finds the number nearest to a fraction, `equals` compares by value, and
`truncate` drops what is behind the point.
-/

namespace Conformance.Number

/-- A binary floating-point number. -/
inductive Binary64 where
  /-- The number `mantissa * 2 ^ exponent`, or its opposite. -/
  | finite (negative : Bool) (mantissa : Nat) (exponent : Int)
  /-- Greater or less than every finite number. -/
  | infinite (negative : Bool)
  /-- No number. -/
  | nan
  deriving DecidableEq, Repr

namespace Binary64

/-- The least exponent. -/
def minExponent : Int := -1074

/-- The greatest exponent. -/
def maxExponent : Int := 971

/-- One above the greatest mantissa. -/
def mantissaBound : Nat := 1 <<< 53

/-- Zero. -/
def zero : Binary64 := finite false 0 minExponent

instance : Inhabited Binary64 := ⟨zero⟩

/-- One. -/
def one : Binary64 := finite false (1 <<< 52) (-52)

/-- The quotient of `n / d` and `2 ^ e` as a fraction. -/
def scaled (n d : Nat) (e : Int) : Nat × Nat :=
  if 0 ≤ e then (n, d <<< e.toNat) else (n <<< (-e).toNat, d)

/-- The exponent of the numbers around the fraction `n / d`, which is not zero. -/
def exponentOf (n d : Nat) : Int :=
  let e := (n.log2 : Int) - d.log2 - 53
  let s := scaled n d e
  max minExponent (if s.1 / s.2 < mantissaBound then e else e + 1)

/-- The number nearest to the fraction `n / d` with this sign; between two, the one with the even
mantissa. Beyond the greatest number it is infinite. -/
def ofRatio (negative : Bool) (n d : Nat) : Binary64 :=
  if n = 0 then finite negative 0 minExponent
  else
    let e := exponentOf n d
    let s := scaled n d e
    let m := roundDiv s.1 s.2
    let carried := if m = mantissaBound then (m / 2, e + 1) else (m, e)
    if maxExponent < carried.2 then infinite negative else finite negative carried.1 carried.2

/-- A decimal whose first digit stands beyond this power of ten is infinite, and one whose first
digit stands beyond its opposite is zero. -/
def decimalReach : Int := 400

/-- The number nearest to `digits * 10 ^ e` with this sign. -/
def ofDecimal (negative : Bool) (digits : Nat) (e : Int) : Binary64 :=
  let first : Int := (Nat.toDigits 10 digits).length + e
  if digits = 0 ∨ first < -decimalReach then ofRatio negative 0 1
  else if decimalReach < first then infinite negative
  else if 0 ≤ e then ofRatio negative (digits * Nat.pow 10 e.toNat) 1
  else ofRatio negative digits (Nat.pow 10 (-e).toNat)

/-- The number nearest to an integer. -/
def ofInt (n : Int) : Binary64 := ofRatio (n < 0) n.natAbs 1

/-- The number is not zero, or it is no number. -/
def isTruthy : Binary64 → Bool
  | finite _ m _ => m != 0
  | _ => true

/-- The number is zero or greater, and not the negative zero. -/
def isPositive : Binary64 → Bool
  | finite s _ _ | infinite s => !s
  | nan => true

/-- The number is zero or less. -/
def isAtMostZero : Binary64 → Bool
  | finite s m _ => s || m == 0
  | infinite s => s
  | nan => false

/-- The integer with this sign and this absolute value. -/
def signed (negative : Bool) (n : Nat) : Int := if negative then -(n : Int) else n

/-- The integer between zero and the number that is nearest to it. -/
def truncate : Binary64 → Option Int
  | finite s m e =>
    some (signed s (if 0 ≤ e then m <<< e.toNat else m >>> (-e).toNat))
  | _ => none

/-- The numbers are equal by value: the two zeros are, and what is no number equals nothing. -/
def equals : Binary64 → Binary64 → Bool
  | finite s m e, finite t n f => (m == 0 && n == 0) || (s == t && m == n && e == f)
  | infinite s, infinite t => s == t
  | _, _ => false

/-- The number equals an integer. -/
def equalsInt : Binary64 → Int → Bool
  | finite s m e, n =>
    if 0 ≤ e then n == signed s (m <<< e.toNat)
    else n * (1 <<< (-e).toNat : Nat) == signed s m
  | _, _ => false

/-- Equal numbers are equal both ways. -/
theorem equals_comm (x y : Binary64) : x.equals y = y.equals x := by
  cases x <;> cases y <;> simp [equals] <;> grind

end Binary64

end Conformance.Number
