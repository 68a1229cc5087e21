/-!
# Rounding a quotient

The nearest integer to a quotient of natural numbers, a half going to the even neighbour.
-/

namespace DiceTray

/-- The integer nearest to `numerator / denominator`; of two nearest ones, the even one. -/
def roundHalfEven (numerator denominator : Nat) : Nat :=
  let quotient := numerator / denominator
  let remainder := numerator % denominator
  if denominator < 2 * remainder ∨ (2 * remainder = denominator ∧ quotient % 2 = 1) then
    quotient + 1
  else
    quotient

/-- The rounded quotient is at most half a unit away. -/
theorem roundHalfEven_close (numerator : Nat) {denominator : Nat} (positive : 0 < denominator) :
    2 * numerator ≤ 2 * (roundHalfEven numerator denominator * denominator) + denominator ∧
      2 * (roundHalfEven numerator denominator * denominator) ≤ 2 * numerator + denominator := by
  have split := Nat.div_add_mod numerator denominator
  have small := Nat.mod_lt numerator positive
  have commuted := Nat.mul_comm denominator (numerator / denominator)
  simp only [roundHalfEven]
  split
  · rw [Nat.add_mul]; omega
  · omega

end DiceTray
