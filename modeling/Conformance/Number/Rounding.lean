/-!
# Rounding to the nearest integer

`roundDiv n d` is the integer nearest to the quotient `n / d`. A half goes to the even neighbour,
so a rounded quotient is off by a half at most (`roundDiv_bounds`).
-/

namespace Conformance.Number

/-- The integer nearest to the quotient `n / d`; between two, the even one. -/
def roundDiv (n d : Nat) : Nat :=
  let q := n / d
  let r := n % d
  if 2 * r < d ∨ (2 * r = d ∧ q % 2 = 0) then q else q + 1

/-- A rounded quotient is off by a half at most. -/
theorem roundDiv_bounds {n d : Nat} (h : 0 < d) :
    2 * n ≤ 2 * (d * roundDiv n d) + d ∧ 2 * (d * roundDiv n d) ≤ 2 * n + d := by
  have hn := Nat.div_add_mod n d
  have hr := Nat.mod_lt n h
  simp only [roundDiv]
  split
  · omega
  · rw [Nat.mul_add, Nat.mul_one]
    omega

/-- An integer is left as it is. -/
theorem roundDiv_mul_self {n d : Nat} (h : 0 < d) : roundDiv (d * n) d = n := by
  simp [roundDiv, Nat.mul_div_cancel_left n h, h]

end Conformance.Number
