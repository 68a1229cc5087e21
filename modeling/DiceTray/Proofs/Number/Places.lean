import DiceTray.Number.Places
import Mathlib.Algebra.Order.Field.Basic
import Mathlib.Data.Rat.Cast.Order
import Mathlib.Tactic.FieldSimp
import Mathlib.Tactic.Linarith

/-!
# Numbers with two places

A number is written as the count of hundredths that is nearest to it, and where two are equally near
as the even one of them. The count stands for itself: its last two digits are the places.
-/

namespace DiceTray

/-- A count is nearest to a number; if another one is as near, this is the even one. -/
structure Nearest (count : Nat) (value : ℚ) : Prop where
  close : |value - count| ≤ 1 / 2
  even : |value - count| = 1 / 2 → count % 2 = 0

section Rounding

variable (numerator : Nat) {denominator : Nat}

/-- A quotient halfway between two integers is rounded to the even one. -/
theorem roundHalfEven_even (positive : 0 < denominator)
    (halfway : 2 * numerator = 2 * (roundHalfEven numerator denominator * denominator) +
        denominator ∨
      2 * (roundHalfEven numerator denominator * denominator) = 2 * numerator + denominator) :
    roundHalfEven numerator denominator % 2 = 0 := by
  have parts := Nat.div_add_mod numerator denominator
  have small := Nat.mod_lt numerator positive
  have commuted := Nat.mul_comm denominator (numerator / denominator)
  simp only [roundHalfEven] at halfway ⊢
  split at halfway
  · next up =>
    rw [Nat.add_mul] at halfway
    rw [if_pos up]
    omega
  · next down =>
    rw [if_neg down]
    omega

theorem nearest_roundHalfEven (positive : 0 < denominator) :
    Nearest (roundHalfEven numerator denominator) (numerator / denominator) := by
  obtain ⟨above, below⟩ := roundHalfEven_close numerator positive
  have even := roundHalfEven_even numerator positive
  generalize roundHalfEven numerator denominator = count at above below even ⊢
  have unit : (0 : ℚ) < denominator := Nat.cast_pos.2 positive
  have apart : (numerator / denominator - count : ℚ) =
      (2 * numerator - 2 * (count * denominator)) / (2 * denominator) := by
    field_simp
  have above' : (2 * numerator : ℚ) ≤ 2 * (count * denominator) + denominator := by
    exact_mod_cast above
  have below' : (2 * (count * denominator) : ℚ) ≤ 2 * numerator + denominator := by
    exact_mod_cast below
  constructor
  · rw [apart, abs_le, le_div_iff₀ (by linarith), div_le_iff₀ (by linarith)]
    constructor <;> linarith
  · intro half
    apply even
    rw [apart, abs_eq (by norm_num), div_eq_iff (by linarith), div_eq_iff (by linarith)] at half
    rcases half with up | down
    · left
      have whole : (2 * numerator : ℚ) = 2 * (count * denominator) + denominator := by linarith
      exact_mod_cast whole
    · right
      have whole : (2 * (count * denominator) : ℚ) = 2 * numerator + denominator := by linarith
      exact_mod_cast whole

end Rounding

namespace Binary64

/-- A power of two as a quotient of natural numbers. -/
theorem zpow_eq_div (exponent : Int) :
    (2 : ℚ) ^ exponent = twoTo exponent.toNat / twoTo (-exponent).toNat := by
  have power (count : Nat) : (twoTo count : ℚ) = 2 ^ count := Nat.cast_pow 2 count
  rw [power, power]
  obtain ⟨count, rfl | rfl⟩ := exponent.eq_nat_or_neg
  · simp
  · simp

theorem nearest_hundredths (significand : Nat) (exponent : Int) :
    Nearest (hundredths significand exponent) (100 * significand * 2 ^ exponent) := by
  have quotient : (100 * significand * 2 ^ exponent : ℚ) =
      (100 * significand * twoTo exponent.toNat : Nat) / (twoTo (-exponent).toNat : Nat) := by
    rw [zpow_eq_div]
    push_cast
    exact (mul_div_assoc _ _ _).symm
  rw [quotient]
  exact nearest_roundHalfEven _ (Nat.two_pow_pos _)

/-- What is written before a number. -/
def signText (negative : Bool) : String := if negative then "-" else ""

/-- How a number is written with two places. -/
inductive WithPlaces : Datum → String → Prop
  | nan : WithPlaces .nan "nan"
  | infinity (negative : Bool) : WithPlaces (.infinity negative) (signText negative ++ "inf")
  /-- The digits are those of the nearest count of hundredths. -/
  | finite (negative : Bool) {significand : Nat} {exponent : Int} {whole tens ones : Nat}
      (digits : tens < 10 ∧ ones < 10)
      (nearest : Nearest (100 * whole + 10 * tens + ones) (100 * significand * 2 ^ exponent)) :
      WithPlaces (.finite negative significand exponent)
        (signText negative ++ (whole.repr ++ "." ++ tens.repr ++ ones.repr))

theorem withPlaces_placesText (x : Binary64) : WithPlaces x.datum x.placesText := by
  rw [placesText]
  cases x.datum with
  | nan => exact .nan
  | infinity negative => cases negative <;> exact .infinity _
  | finite negative significand exponent =>
    have nearest := nearest_hundredths significand exponent
    dsimp only [hundredthsText]
    generalize hundredths significand exponent = count at nearest ⊢
    have parts : 100 * (count / 100) + 10 * (count / 10 % 10) + count % 10 = count := by omega
    have digits : count / 10 % 10 < 10 ∧ count % 10 < 10 := by omega
    exact .finite negative digits (parts.symm ▸ nearest)

end Binary64

end DiceTray
