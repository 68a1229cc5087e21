import DiceTray.Number.Binary64
import Mathlib.Tactic.Ring

/-!
# The range of double precision

Which integers are converted to a double: those that are nearer to the largest double than to the
next power of two. Far smaller integers, and half of them, are always in range, and where they are
not zero they may be divided by.
-/

namespace DiceTray

theorem twoTo_add (first second : Nat) : twoTo (first + second) = twoTo first * twoTo second :=
  Nat.pow_add 2 first second

theorem twoTo_pos (exponent : Nat) : 0 < twoTo exponent := Nat.two_pow_pos exponent

section Rounding

variable {numerator denominator bound : Nat}

/-- A quotient below an integer is rounded to that integer at most. -/
theorem roundHalfEven_le (below : numerator < bound * denominator) :
    roundHalfEven numerator denominator ≤ bound := by
  have quotient : numerator / denominator < bound :=
    Nat.div_lt_of_lt_mul (Nat.mul_comm bound denominator ▸ below)
  rw [roundHalfEven]
  split <;> omega

/-- From an integer on it is rounded to that integer at least. -/
theorem le_roundHalfEven (positive : 0 < denominator) (above : bound * denominator ≤ numerator) :
    bound ≤ roundHalfEven numerator denominator := by
  have quotient : bound ≤ numerator / denominator := (Nat.le_div_iff_mul_le positive).2 above
  rw [roundHalfEven]
  split <;> omega

/-- An even integer is reached from half a unit below it on. -/
theorem le_roundHalfEven_iff (positive : 0 < denominator) (even : bound % 2 = 0)
    (some : 0 < bound) :
    bound ≤ roundHalfEven numerator denominator ↔
      (2 * bound - 1) * denominator ≤ 2 * numerator := by
  have parts := Nat.div_add_mod numerator denominator
  have small := Nat.mod_lt numerator positive
  have odd (quotient : Nat) :
      (2 * (quotient + 1) - 1) * denominator = 2 * (denominator * quotient) + denominator := by
    rw [Nat.mul_add_one, Nat.add_sub_assoc (by decide)]
    ring
  rw [roundHalfEven]
  generalize numerator / denominator = quotient at parts ⊢
  generalize numerator % denominator = remainder at parts small ⊢
  rcases Nat.lt_trichotomy (quotient + 1) bound with less | rfl | more
  · have far : (2 * (quotient + 1 + 1) - 1) * denominator ≤ (2 * bound - 1) * denominator :=
      Nat.mul_le_mul_right denominator (by omega)
    rw [odd, Nat.mul_add_one] at far
    split <;> omega
  · rw [odd]
    split <;> omega
  · have near : (2 * bound - 1) * denominator ≤ (2 * (quotient + 1) - 1) * denominator :=
      Nat.mul_le_mul_right denominator (by omega)
    have below : (2 * bound - 1) * denominator ≤ 2 * (denominator * quotient) := by
      refine (Nat.mul_le_mul_right denominator (by omega : _ ≤ 2 * quotient)).trans (le_of_eq ?_)
      ring
    split <;> omega

end Rounding

namespace Binary64

variable {n : Nat}

/-- The significand to which an integer is rounded that is divided by a power of two. -/
def significandOf (n shift : Nat) : Nat :=
  roundHalfEven (n * twoTo (shift + 52 - n.log2)) (twoTo shift * twoTo (n.log2 - shift - 52))

/-- An integer lies between powers of two. -/
theorem log2_bounds (positive : 0 < n) : twoTo n.log2 ≤ n ∧ n < twoTo (n.log2 + 1) :=
  ⟨Nat.log2_self_le (by omega), Nat.lt_log2_self⟩

/-- How such a quotient is encoded. -/
theorem encodeQuotient_twoTo (shift : Nat) (least : twoTo shift ≤ n) :
    encodeQuotient n (twoTo shift) =
      min (significandOf n shift + (n.log2 - shift + 1022) * twoTo 52) infinityCode := by
  have positive : 0 < n := Nat.lt_of_lt_of_le (twoTo_pos shift) least
  have above : shift ≤ n.log2 := (Nat.le_log2 (by omega)).2 least
  have logarithm : log2Quotient n (twoTo shift) = n.log2 - shift := by
    have below : twoTo shift * twoTo (n.log2 - shift) ≤ n := by
      rw [← twoTo_add, Nat.add_sub_cancel' above]
      exact (log2_bounds positive).1
    have log : (twoTo shift).log2 = shift := Nat.log2_two_pow
    have up : ((n.log2 : Int) - shift).toNat = n.log2 - shift := by omega
    have down : (-((n.log2 : Int) - shift)).toNat = 0 := by omega
    rw [log2Quotient, log, up, down, if_pos]
    exact below.trans (Nat.mul_one n).ge
  have exponent : max ((n.log2 : Int) - shift - 52) leastExponent = n.log2 - shift - 52 := by
    rw [leastExponent]
    omega
  have up : ((n.log2 : Int) - shift - 52).toNat = n.log2 - shift - 52 := by omega
  have down : (-((n.log2 : Int) - shift - 52)).toNat = shift + 52 - n.log2 := by omega
  have biased : ((n.log2 : Int) - shift - 52 - leastExponent).toNat = n.log2 - shift + 1022 := by
    rw [leastExponent]
    omega
  rw [encodeQuotient, if_neg (by omega), logarithm, exponent]
  dsimp only
  rw [up, down, biased, significandOf]

/-- The significand has fifty-three bits, or is the next power of two. -/
theorem significandOf_bounds (shift : Nat) (positive : 0 < n) (above : shift ≤ n.log2) :
    twoTo 52 ≤ significandOf n shift ∧ significandOf n shift ≤ twoTo 53 := by
  obtain ⟨least, below⟩ := log2_bounds positive
  have scaled : twoTo 52 * (twoTo shift * twoTo (n.log2 - shift - 52)) =
      twoTo n.log2 * twoTo (shift + 52 - n.log2) := by
    rw [← twoTo_add, ← twoTo_add, ← twoTo_add]
    congr 1
    omega
  have doubled (exponent : Nat) : twoTo (exponent + 1) = 2 * twoTo exponent := Nat.pow_succ'
  constructor
  · apply le_roundHalfEven (Nat.mul_pos (twoTo_pos _) (twoTo_pos _))
    rw [scaled]
    exact Nat.mul_le_mul_right _ least
  · apply roundHalfEven_le
    rw [doubled 52, Nat.mul_assoc, scaled, ← Nat.mul_assoc, ← doubled]
    exact Nat.mul_lt_mul_of_pos_right below (twoTo_pos _)

/-- Quotients of moderate size are neither zero nor infinite. -/
theorem encodeQuotient_bounds (shift : Nat) (least : twoTo shift ≤ n)
    (small : n.log2 ≤ shift + 1022) :
    0 < encodeQuotient n (twoTo shift) ∧ encodeQuotient n (twoTo shift) < infinityCode := by
  have positive : 0 < n := Nat.lt_of_lt_of_le (twoTo_pos shift) least
  obtain ⟨low, high⟩ := significandOf_bounds shift positive ((Nat.le_log2 (by omega)).2 least)
  have up : (n.log2 - shift + 1022) * twoTo 52 ≤ 2044 * twoTo 52 :=
    Nat.mul_le_mul_right _ (by omega)
  have size : infinityCode = 2044 * twoTo 52 + twoTo 53 + twoTo 52 := by decide
  have unit := twoTo_pos 52
  rw [encodeQuotient_twoTo shift least]
  omega

/-- From this integer on, infinity is as near as the largest double. -/
def integersEnd : Nat := twoTo 1024 - twoTo 970

/-- These integers are encoded as infinity. -/
theorem encodeQuotient_one_eq_infinity_iff :
    encodeQuotient n 1 = infinityCode ↔ integersEnd ≤ n := by
  rcases Nat.eq_zero_or_pos n with rfl | positive
  · decide +kernel
  obtain ⟨least, below⟩ := log2_bounds positive
  have monotone {small large : Nat} (le : small ≤ large) : twoTo small ≤ twoTo large :=
    Nat.pow_le_pow_right (by decide) le
  have encoded : encodeQuotient n 1 = min (significandOf n 0 + (n.log2 + 1022) * twoTo 52) _ :=
    encodeQuotient_twoTo 0 positive
  rcases Nat.lt_trichotomy n.log2 1023 with less | equal | more
  · have bounds : encodeQuotient n 1 < infinityCode :=
      (encodeQuotient_bounds 0 positive (by omega)).2
    have beyond : twoTo 1023 ≤ integersEnd := by decide +kernel
    exact iff_of_false bounds.ne
      (Nat.not_le.2 ((Nat.lt_of_lt_of_le below (monotone less)).trans_le beyond))
  · -- among the integers of this size it depends on the rounding
    have rounded : significandOf n 0 = roundHalfEven n (twoTo 971) := by
      have unit : twoTo 0 = 1 := rfl
      have scale : 0 + 52 - 1023 = 0 := rfl
      rw [significandOf, equal, scale, unit, Nat.mul_one, Nat.one_mul]
    have reached : twoTo 53 ≤ significandOf n 0 ↔ 2 * integersEnd ≤ 2 * n := by
      have doubled : (2 * twoTo 53 - 1) * twoTo 971 = 2 * integersEnd := by decide +kernel
      rw [rounded, ← doubled]
      exact le_roundHalfEven_iff (twoTo_pos 971) (by decide) (twoTo_pos 53)
    have size : infinityCode = twoTo 53 + (1023 + 1022) * twoTo 52 := by decide
    rw [encoded, equal, min_eq_right_iff, size, Nat.add_le_add_iff_right, reached,
      Nat.mul_le_mul_left_iff (by decide)]
  · have beyond : integersEnd ≤ n := (Nat.sub_le _ _).trans ((monotone more).trans least)
    have low := (significandOf_bounds 0 positive (Nat.zero_le _)).1
    have up : 2046 * twoTo 52 ≤ (n.log2 + 1022) * twoTo 52 := Nat.mul_le_mul_right _ (by omega)
    have size : infinityCode = 2046 * twoTo 52 + twoTo 52 := by decide
    refine iff_of_true ?_ beyond
    rw [encoded, Nat.min_eq_right]
    omega

/-- Integers below it are converted, and no others. -/
theorem ofInteger_cases (m : Int) :
    (m.natAbs < integersEnd ∧ ∃ x, ofInteger m = .ok x) ∨
      (integersEnd ≤ m.natAbs ∧ ofInteger m = .error .integerTooLarge) := by
  rw [← Nat.not_le, ← encodeQuotient_one_eq_infinity_iff, ofInteger]
  split
  · next infinite => exact .inr ⟨infinite, rfl⟩
  · next finite => exact .inl ⟨finite, _, rfl⟩

/-- What is encoded between zero and infinity is a number other than zero. -/
theorem datum_ofCode (negative : Bool) {code : Nat} (positive : 0 < code)
    (finite : code < infinityCode) :
    ∃ sign significand exponent,
      (ofCode negative code).datum = .finite sign (significand + 1) exponent := by
  have unit := twoTo_pos 52
  have word : (ofCode negative code).bits.toNat =
      code + twoTo 52 * (2048 * if negative then 1 else 0) := by
    have fits : (if negative then twoTo 63 else 0) + code < 2 ^ 64 := by
      have room : twoTo 63 + infinityCode ≤ 2 ^ 64 := by decide
      split <;> omega
    have bits : (ofCode negative code).bits.toNat = (if negative then twoTo 63 else 0) + code :=
      UInt64.toNat_ofNat_of_lt' fits
    have sign : twoTo 63 = twoTo 52 * (2048 * 1) := by decide
    rw [bits, sign, Nat.add_comm]
    cases negative <;> rfl
  have below : code / twoTo 52 < 2047 := Nat.div_lt_of_lt_mul (Nat.mul_comm 2047 _ ▸ finite)
  have exponent : (ofCode negative code).bits.toNat / twoTo 52 % 2048 = code / twoTo 52 := by
    rw [word, Nat.add_mul_div_left _ _ unit, Nat.add_mul_mod_self_left]
    exact Nat.mod_eq_of_lt (by omega)
  have fraction : (ofCode negative code).bits.toNat % twoTo 52 = code % twoTo 52 := by
    rw [word, Nat.add_mul_mod_self_left]
  rw [datum, exponent, fraction, if_neg below.ne]
  split
  · next subnormal =>
    have present : 0 < code % twoTo 52 := by
      have parts := Nat.div_add_mod code (twoTo 52)
      rw [subnormal] at parts
      omega
    exact ⟨_, _, _, congrArg (Datum.finite _ · _) (Nat.sub_add_cancel present).symm⟩
  · exact ⟨_, _, _, congrArg (Datum.finite _ · _) (Nat.sub_add_cancel (by omega)).symm⟩

/-- So it may be divided by. -/
theorem exists_div (negative : Bool) {code : Nat} (positive : 0 < code)
    (finite : code < infinityCode) (x : Binary64) :
    ∃ quotient, div x (ofCode negative code) = .ok quotient := by
  obtain ⟨sign, significand, exponent, datum⟩ := datum_ofCode negative positive finite
  rw [div, datum]
  cases x.datum <;> exact ⟨_, rfl⟩

/-- Integers of a word are far from the end. -/
theorem exists_ofInteger {m : Int} (small : m.natAbs < twoTo 63) : ∃ x, ofInteger m = .ok x := by
  have room : twoTo 63 ≤ integersEnd := by decide +kernel
  rcases ofInteger_cases m with ⟨-, converted⟩ | ⟨beyond, -⟩
  · exact converted
  · exact absurd small (Nat.not_lt.2 (room.trans beyond))

/-- So are their halves. -/
theorem exists_half {m : Int} (enough : 2 ≤ m) (small : m.natAbs < twoTo 63) :
    ∃ x, ofIntegers m 2 = .ok x := by
  have log : m.natAbs.log2 < 63 := (Nat.log2_lt (by omega)).2 small
  have least : twoTo 1 ≤ m.natAbs := by
    have two : twoTo 1 = 2 := rfl
    omega
  have finite : encodeQuotient m.natAbs (Int.natAbs 2) ≠ infinityCode :=
    (encodeQuotient_bounds 1 least (by omega)).2.ne
  rw [ofIntegers, if_neg (by decide)]
  dsimp only
  rw [if_neg finite]
  exact ⟨_, rfl⟩

/-- Other than zero they may be divided by. -/
theorem exists_quotient {m : Int} (nonzero : m ≠ 0) (small : m.natAbs < twoTo 63) (x : Binary64) :
    ∃ y quotient, ofInteger m = .ok y ∧ div x y = .ok quotient := by
  have log : m.natAbs.log2 < 63 := (Nat.log2_lt (by omega)).2 small
  have bounds : 0 < encodeQuotient m.natAbs 1 ∧ encodeQuotient m.natAbs 1 < infinityCode :=
    encodeQuotient_bounds 0 (Int.natAbs_pos.2 nonzero) (by omega)
  obtain ⟨quotient, divided⟩ := exists_div (m < 0) bounds.1 bounds.2 x
  refine ⟨ofCode (m < 0) (encodeQuotient m.natAbs 1), quotient, ?_, divided⟩
  rw [ofInteger]
  exact if_neg bounds.2.ne

end Binary64

end DiceTray
