import Conformance.Number.Binary64

/-!
# Shortest decimals

Among the decimals that a floating-point number is read from, some have the fewest digits, and of
those one is nearest to the number. `shortest` finds it: for one digit, two digits and so on it
tries the two neighbours of the number with so many digits. What it finds reads back as the
number (`ofDecimal_of_closest?`).
-/

namespace Conformance.Number

/-- A decimal: an integer and a power of ten. -/
structure Decimal where
  /-- The digits, as an integer. -/
  digits : Nat
  /-- The power of ten of the last digit. -/
  exponent : Int
  deriving DecidableEq, Repr, Inhabited

/-- How many decimal digits a number has. -/
def digitCount (n : Nat) : Nat := (Nat.toDigits 10 n).length

/-- The power of ten of the first digit of the fraction `n / d`, which is not zero. -/
def leadingExponent (n d : Nat) : Int :=
  if d ≤ n then (digitCount (n / d) : Int) - 1
  else
    let k := digitCount (d / n)
    if n * Nat.pow 10 (k - 1) = d then 1 - (k : Int) else -(k : Int)

/-- The fraction `n / d` divided by `10 ^ e`. -/
def scaledByTen (n d : Nat) (e : Int) : Nat × Nat :=
  if 0 ≤ e then (n, d * Nat.pow 10 e.toNat) else (n * Nat.pow 10 (-e).toNat, d)

/-- The neighbours of the fraction `n / d` among the multiples of `10 ^ e`, the nearer one
first. -/
def neighbours (n d : Nat) (e : Int) : List Decimal :=
  let s := scaledByTen n d e
  let near := roundDiv s.1 s.2
  let below := s.1 / s.2
  [⟨near, e⟩, ⟨if near = below then below + 1 else below, e⟩]

/-- The nearest decimal with `count` digits that reads back as the number with this mantissa and
this exponent. -/
def closest? (m : Nat) (e : Int) (count : Nat) : Option Decimal :=
  let r := if 0 ≤ e then (m <<< e.toNat, 1) else (m, 1 <<< (-e).toNat)
  let last := leadingExponent r.1 r.2 - count + 1
  (neighbours r.1 r.2 last).find? fun x =>
    Binary64.ofDecimal false x.digits x.exponent = .finite false m e

/-- The most digits that a number needs. -/
def maxDigits : Nat := 17

/-- The decimal without zeros at its end. -/
def Decimal.trim : (fuel : Nat) → Decimal → Decimal
  | 0, x => x
  | fuel + 1, x =>
    if x.digits % 10 = 0 then trim fuel ⟨x.digits / 10, x.exponent + 1⟩ else x

/-- The shortest decimal that reads back as the number with this mantissa, which is not zero, and
this exponent. -/
def shortest (m : Nat) (e : Int) : Decimal :=
  let found := (List.range maxDigits).findSome? fun k => closest? m e (k + 1)
  (found.getD default).trim maxDigits

/-- What is found reads back as the number. -/
theorem ofDecimal_of_closest? {m : Nat} {e : Int} {count : Nat} {x : Decimal}
    (h : closest? m e count = some x) :
    Binary64.ofDecimal false x.digits x.exponent = .finite false m e := by
  simpa using List.find?_some h

end Conformance.Number
