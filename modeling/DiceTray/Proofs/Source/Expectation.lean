import DiceTray.Average
import DiceTray.Proofs.Sequence
import DiceTray.Proofs.Source.Accounting
import Mathlib

/-!
# The average as an expectation

The formula for the average gives, in exact arithmetic, the mean of the totals over all scripts of
two values for each die. After a die was rolled again the dice behind it take later values of the
script, but these are as evenly spread as those before them. So the mean is found die by die: what
is left of a script after a die is again any script, of one value or two values less.
-/

namespace DiceTray

open scoped BigOperators

section Scripts

variable {sides : Int} {length : Nat}

/-- The values of a script of sides. -/
def scriptValues (script : Fin length → Finset.Icc 1 sides) : List Int :=
  List.ofFn fun place => (script place : Int)

@[simp] theorem length_scriptValues (script : Fin length → Finset.Icc 1 sides) :
    (scriptValues script).length = length := List.length_ofFn

/-- The mean over all scripts with a value more is the mean over its first value of the means over
the others. -/
theorem expect_scriptValues_succ (measure : List Int → Rat) :
    (𝔼 script : Fin (length + 1) → Finset.Icc 1 sides, measure (scriptValues script)) =
      𝔼 first : Finset.Icc 1 sides, 𝔼 rest : Fin length → Finset.Icc 1 sides,
        measure (first :: scriptValues rest) := by
  rw [← Finset.expect_product', Finset.univ_product_univ]
  symm
  apply Fintype.expect_equiv (Fin.consEquiv fun _ => Finset.Icc 1 sides)
  rintro ⟨first, rest⟩
  simp [scriptValues, List.ofFn_succ, Fin.consEquiv]

/-- The mean of the sides of a die: each side is as far from one end as another is from the other.
-/
theorem expect_side (some : 1 ≤ sides) :
    (𝔼 side : Finset.Icc 1 sides, ((side : Int) : Rat)) = (sides + 1) / 2 := by
  have nonempty : Nonempty (Finset.Icc 1 sides) := ⟨1, Finset.mem_Icc.2 ⟨le_rfl, some⟩⟩
  have across (side : Finset.Icc 1 sides) : sides + 1 - (side : Int) ∈ Finset.Icc 1 sides := by
    have within := Finset.mem_Icc.1 side.2
    exact Finset.mem_Icc.2 ⟨by omega, by omega⟩
  let opposite (side : Finset.Icc 1 sides) : Finset.Icc 1 sides := ⟨_, across side⟩
  have involutive : Function.Involutive opposite := fun side => Subtype.ext (by simp [opposite])
  have same : (𝔼 side : Finset.Icc 1 sides, ((side : Int) : Rat)) =
      𝔼 side : Finset.Icc 1 sides, ((sides + 1 : Rat) - (side : Int)) :=
    Fintype.expect_equiv involutive.toPerm _ _ fun side => by simp [opposite]
  rw [Finset.expect_sub_distrib, Fintype.expect_const] at same
  linarith

end Scripts

namespace Expression

variable (expression : Expression)

/-- The mean of a die without rerolls. -/
def plainMean : Rat := (expression.sides + 1) / 2

/-- The mean of a die: with rerolls a one gives way to the mean without them. -/
def dieMean : Rat :=
  expression.plainMean +
    if expression.reroll then (expression.plainMean - 1) / expression.sides else 0

/-- The formula for the mean of a die counts each side but the first once, and the mean without
rerolls in place of the first. -/
theorem meanDieIn_exact (sided : expression.sides ≠ 0) :
    expression.meanDieIn .exact = .ok expression.dieMean := by
  have plain : Arithmetic.exact.ofIntegers (expression.sides + 1) 2 = .ok expression.plainMean := by
    simp [Arithmetic.exact, plainMean]
  rw [meanDieIn, plain, ok_bind, dieMean]
  split
  · have faces : ((expression.sides * (expression.sides + 1) / 2 : Int) : Rat) =
        expression.sides * expression.plainMean := by
      rw [Int.cast_div (Int.even_mul_succ_self expression.sides).two_dvd two_ne_zero, plainMean]
      push_cast
      ring
    have divisor : (expression.sides : Rat) ≠ 0 := Int.cast_ne_zero.2 sided
    simp only [Arithmetic.exact, ok_bind, if_neg divisor, faces]
    congr 1
    field_simp
    push_cast
    ring
  · rw [add_zero]
    rfl

/-- The average in exact arithmetic. -/
theorem averageIn_exact (sided : expression.sides ≠ 0) :
    expression.averageIn .exact =
      .ok (expression.count * expression.dieMean + expression.modifier) := by
  rw [averageIn, expression.meanDieIn_exact sided]
  rfl

/-- What the values of some dice add up to when they are taken from a script, as far as it reaches.
-/
def diceSum : Nat → List Int → Int
  | 0, _ => 0
  | _ + 1, [] => 0
  | count + 1, value :: rest =>
    if expression.reroll ∧ value = 1 then rest.headD 0 + diceSum count rest.tail
    else value + diceSum count rest

/-- A script with two values for each die begins with the draws for all of them. -/
theorem exists_blocks {count : Nat} {script : List Int} (enough : 2 * count ≤ script.length) :
    ∃ rolls draws rest, script = draws ++ rest ∧ rolls.length = count ∧
      InBlocks expression.DieDraws rolls draws ∧ rolls.sum = expression.diceSum count script := by
  induction count generalizing script with
  | zero => exact ⟨[], [], script, rfl, rfl, inBlocks_nil_iff.2 rfl, rfl⟩
  | succ count inductionHypothesis =>
    obtain _ | ⟨first, _ | ⟨second, rest⟩⟩ := script
    · simp at enough
    · simp only [List.length_singleton] at enough
      omega
    · simp only [List.length_cons] at enough
      rw [diceSum]
      split
      · next again =>
        obtain ⟨again, rfl⟩ := again
        obtain ⟨rolls, draws, left, rfl, counted, blocks, sum⟩ :=
          inductionHypothesis (show 2 * count ≤ rest.length by omega)
        refine ⟨second :: rolls, [1, second] ++ draws, left, rfl, congrArg _ counted, ?_, ?_⟩
        · exact inBlocks_cons_iff.2 ⟨_, _, rfl, .rerolled again, blocks⟩
        · rw [List.sum_cons, sum]
          rfl
      · next never =>
        rw [not_and_or, Bool.not_eq_true] at never
        obtain ⟨rolls, draws, left, others, counted, blocks, sum⟩ :=
          inductionHypothesis (show 2 * count ≤ (second :: rest).length by
            rw [List.length_cons]
            omega)
        refine ⟨first :: rolls, [first] ++ draws, left, ?_, congrArg _ counted, ?_, ?_⟩
        · rw [others, List.append_assoc, List.singleton_append]
        · exact inBlocks_cons_iff.2 ⟨_, _, rfl, .kept never, blocks⟩
        · rw [List.sum_cons, sum]

variable {expression}

/-- The mean of what the first value of a die counts for, when a one that is rolled again counts for
the mean without rerolls. -/
theorem expect_first (some : 1 ≤ expression.sides) :
    (𝔼 first : Finset.Icc 1 expression.sides,
      if expression.reroll ∧ (first : Int) = 1 then expression.plainMean
        else ((first : Int) : Rat)) =
      expression.dieMean := by
  rw [dieMean]
  cases expression.reroll with
  | false =>
    simp only [Bool.false_eq_true, false_and, if_false, add_zero]
    exact expect_side some
  | true =>
    simp only [true_and, if_true]
    let one : Finset.Icc 1 expression.sides := ⟨1, Finset.mem_Icc.2 ⟨le_rfl, some⟩⟩
    have gain (first : Finset.Icc 1 expression.sides) :
        (if (first : Int) = 1 then expression.plainMean else ((first : Int) : Rat)) =
          ((first : Int) : Rat) + if first = one then expression.plainMean - 1 else 0 := by
      by_cases lowest : (first : Int) = 1
      · rw [if_pos lowest, if_pos (Subtype.ext lowest), lowest, Int.cast_one]
        ring
      · rw [if_neg lowest, if_neg fun same => lowest (congrArg _ same), add_zero]
    have sidesCounted :
        (Fintype.card (Finset.Icc 1 expression.sides) : Rat) = expression.sides := by
      rw [Fintype.card_coe, Int.card_Icc, add_sub_cancel_right]
      exact_mod_cast Int.toNat_of_nonneg (zero_le_one.trans some)
    simp only [gain, Finset.expect_add_distrib, expect_side some]
    rw [Fintype.expect_eq_sum_div_card (fun first => if first = one then _ else _),
      Finset.sum_ite_eq' Finset.univ, if_pos (Finset.mem_univ one), sidesCounted]
    rfl

/-- On the mean over all scripts with two values for each die, the dice add up to the mean of a die
for each of them. -/
theorem expect_diceSum (some : 1 ≤ expression.sides) {count length : Nat}
    (enough : 2 * count ≤ length) :
    (𝔼 script : Fin length → Finset.Icc 1 expression.sides,
      (expression.diceSum count (scriptValues script) : Rat)) = count * expression.dieMean := by
  have nonempty : Nonempty (Finset.Icc 1 expression.sides) :=
    ⟨1, Finset.mem_Icc.2 ⟨le_rfl, some⟩⟩
  induction count generalizing length with
  | zero => simp [diceSum]
  | succ count inductionHypothesis =>
    obtain ⟨length, rfl⟩ := Nat.exists_eq_add_of_le' (show 2 ≤ length by omega)
    have onFirst (first : Finset.Icc 1 expression.sides) :
        (𝔼 rest : Fin (length + 1) → Finset.Icc 1 expression.sides,
          (expression.diceSum (count + 1) (first :: scriptValues rest) : Rat)) =
        (if expression.reroll ∧ (first : Int) = 1 then expression.plainMean
          else ((first : Int) : Rat)) + count * expression.dieMean := by
      simp only [diceSum]
      split
      · rw [expect_scriptValues_succ fun script =>
          ((script.headD 0 + expression.diceSum count script.tail : Int) : Rat)]
        simp only [List.headD_cons, List.tail_cons, Int.cast_add, Finset.expect_add_distrib,
          Fintype.expect_const, inductionHypothesis (show 2 * count ≤ length by omega),
          expect_side some, plainMean]
      · simp only [Int.cast_add, Finset.expect_add_distrib, Fintype.expect_const,
          inductionHypothesis (show 2 * count ≤ length + 1 by omega)]
    rw [expect_scriptValues_succ fun script => (expression.diceSum (count + 1) script : Rat)]
    simp only [onFirst, Finset.expect_add_distrib, Fintype.expect_const, expect_first some]
    push_cast
    ring

variable (expression)

/-- The average in exact arithmetic is the mean of the totals over all scripts of two sides for each
die, from each of which one repetition can be rolled. -/
theorem average_is_mean_of_totals (counted : 1 ≤ expression.count) (sided : 2 ≤ expression.sides) :
    ∃ total : (Fin (2 * expression.count.toNat) → Finset.Icc 1 expression.sides) → Int,
      (∀ script, (expression.rollOnce (Script.ofList (scriptValues script))).1.map Result.total =
        .ok (total script)) ∧
      Fintype.card (Fin (2 * expression.count.toNat) → Finset.Icc 1 expression.sides) =
        expression.sides.toNat ^ (2 * expression.count.toNat) ∧
      expression.averageIn .exact =
        .ok ((∑ script, (total script : Rat)) /
          expression.sides ^ (2 * expression.count.toNat)) := by
  have some : 1 ≤ expression.sides := by omega
  have dice : ((expression.count.toNat : Int) : Rat) = expression.count := by
    rw [Int.toNat_of_nonneg (by omega)]
  have sizes : Fintype.card (Fin (2 * expression.count.toNat) → Finset.Icc 1 expression.sides) =
      expression.sides.toNat ^ (2 * expression.count.toNat) := by
    simp
  have nonempty : Nonempty (Finset.Icc 1 expression.sides) := ⟨1, Finset.mem_Icc.2 ⟨le_rfl, some⟩⟩
  refine ⟨fun script => expression.diceSum expression.count.toNat (scriptValues script) +
    expression.modifier, fun script => ?_, sizes, ?_⟩
  · obtain ⟨rolls, draws, rest, begun, counted, blocks, sum⟩ :=
      expression.exists_blocks (length_scriptValues script).ge
    have account : expression.Accounts (.ofRolls expression.modifier rolls) draws :=
      ⟨counted, rfl, rfl, blocks⟩
    have rolled := expression.spends_rollOnce.gives account rest []
    dsimp only
    rw [← sum, begun, Script.ofList, rolled]
    rfl
  · have mean := expect_diceSum some (Nat.le_refl (2 * expression.count.toNat))
    have shifted : (𝔼 script : Fin (2 * expression.count.toNat) → Finset.Icc 1 expression.sides,
        ((expression.diceSum expression.count.toNat (scriptValues script) +
          expression.modifier : Int) : Rat)) =
        expression.count * expression.dieMean + expression.modifier := by
      simp only [Int.cast_add, Finset.expect_add_distrib, mean, Fintype.expect_const]
      rw [← dice, Int.cast_natCast]
    rw [expression.averageIn_exact (by omega), ← shifted, Fintype.expect_eq_sum_div_card, sizes]
    have whole : (expression.sides.toNat : Rat) = expression.sides := by
      exact_mod_cast Int.toNat_of_nonneg (zero_le_one.trans some)
    rw [Nat.cast_pow, whole]

/-- Two coins with the sides one and two, where a one is tossed again. -/
def twoCoins : Expression := { count := 2, sides := 2, reroll := true }

/-- Over the sixteen scripts of four values the totals of the coins add up to 56, so their mean is
three and a half, as the formula says. -/
theorem average_is_mean_of_totals_of_two_coins :
    (1 ≤ twoCoins.count ∧ 2 ≤ twoCoins.sides) ∧ twoCoins.averageIn .exact = .ok (7 / 2) ∧
      ∃ total : (Fin (2 * twoCoins.count.toNat) → Finset.Icc 1 twoCoins.sides) → Int,
        (∀ script, (twoCoins.rollOnce (Script.ofList (scriptValues script))).1.map Result.total =
          .ok (total script)) ∧
        (∑ script, total script) = 56 := by
  have counted : 1 ≤ twoCoins.count := by decide
  have sided : 2 ≤ twoCoins.sides := by decide
  have average : twoCoins.averageIn .exact = .ok (7 / 2) := by decide +kernel
  obtain ⟨total, totals, -, mean⟩ := twoCoins.average_is_mean_of_totals counted sided
  refine ⟨⟨counted, sided⟩, average, total, totals, ?_⟩
  have quotient : (∑ script, (total script : Rat)) / (2 : Int) ^ 4 = 7 / 2 :=
    (Except.ok.inj (average.symm.trans mean)).symm
  have sum : ((∑ script, total script : Int) : Rat) = 56 := by
    push_cast at quotient ⊢
    linarith
  exact_mod_cast sum

end Expression

end DiceTray
