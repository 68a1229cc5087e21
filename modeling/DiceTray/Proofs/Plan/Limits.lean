import DiceTray.Proofs.Expression.RoundTrip
import DiceTray.Proofs.Number.Range
import DiceTray.Proofs.Plan.Texts

/-!
# Expressions within the limits

What planning ensures of an expression: it is sensible, each of its numbers may be written, and its
dice are within the limits of the command line. Its modifier is within no limit but that of its
digits, and decides alone whether the average can be computed.
-/

namespace DiceTray

open Binary64

namespace Expression

variable {expression : Expression}

/-- What may be planned. -/
structure Plannable (expression : Expression) : Prop where
  sensible : expression.Sensible
  writable : expression.Writable
  sides_le : expression.sides ≤ mostSides
  dice_le : expression.count * expression.repetitions ≤ mostDice

/-- A text that is read and within the limits may be planned. -/
theorem plannable_of_checkLimits {text : String} (read : parse text = .ok expression)
    (checked : expression.checkLimits text = .ok ()) : expression.Plannable := by
  obtain ⟨sensible, writable⟩ := legible_of_parse read
  rw [checkLimits] at checked
  split at checked
  · cases checked
  · next sides =>
    split at checked
    · cases checked
    · next dice => exact ⟨sensible, writable, Int.not_lt.1 sides, Int.not_lt.1 dice⟩

/-- The dice of one repetition are within the limit for all of them. -/
theorem Plannable.count_le (plannable : expression.Plannable) : expression.count ≤ mostDice := by
  obtain ⟨⟨positive, -, repeated⟩, -, -, dice⟩ := plannable
  have once : expression.count * 1 ≤ expression.count * expression.repetitions :=
    Int.mul_le_mul_of_nonneg_left repeated (by omega)
  omega

/-- The mean of a die can be computed. -/
theorem Plannable.exists_meanDie (plannable : expression.Plannable) :
    ∃ mean, expression.meanDieIn .binary64 = .ok mean := by
  obtain ⟨⟨-, enough, -⟩, -, limit, -⟩ := plannable
  have small : expression.sides ≤ 1000000000 := limit
  have word : twoTo 63 = 9223372036854775808 := by decide
  have faces : expression.sides * (expression.sides + 1) ≤ 1000000000 * 1000000001 :=
    Int.mul_le_mul small (by omega) (by omega) (by decide)
  have nonneg : 0 ≤ expression.sides * (expression.sides + 1) :=
    Int.mul_nonneg (by omega) (by omega)
  obtain ⟨plain, halved⟩ := exists_half (m := expression.sides + 1) (by omega) (by omega)
  obtain ⟨sum, summed⟩ := exists_ofInteger (m := expression.sides * (expression.sides + 1) / 2)
    (by omega)
  obtain ⟨minusOne, negated⟩ := exists_ofInteger (m := -1) (by decide)
  obtain ⟨sides, mean, converted, divided⟩ := exists_quotient (m := expression.sides) (by omega)
    (by omega) (add (add plain sum) minusOne)
  simp only [meanDieIn, Arithmetic.binary64, halved, summed, negated, converted, divided, ok_bind]
  split
  · exact ⟨mean, rfl⟩
  · exact ⟨plain, rfl⟩

/-- The average is computed unless the modifier is too large for a double. -/
theorem Plannable.average_cases (plannable : expression.Plannable) :
    (expression.modifier.natAbs < integersEnd ∧ ∃ average, expression.average = .ok average) ∨
    (integersEnd ≤ expression.modifier.natAbs ∧ expression.average = .error .integerTooLarge) := by
  have small : expression.count ≤ 100000 := plannable.count_le
  have positive : 1 ≤ expression.count := plannable.sensible.1
  have word : twoTo 63 = 9223372036854775808 := by decide
  obtain ⟨mean, meant⟩ := plannable.exists_meanDie
  obtain ⟨count, counted⟩ := exists_ofInteger (m := expression.count) (by omega)
  have computed : expression.average =
      (ofInteger expression.modifier).map (add (mul count mean)) := by
    rw [average, averageIn, meant, ok_bind]
    change (ofInteger expression.count >>= _) = _
    rw [counted, ok_bind]
    change (ofInteger expression.modifier >>= _) = _
    cases ofInteger expression.modifier <;> rfl
  rw [computed]
  rcases ofInteger_cases expression.modifier with ⟨within, x, converted⟩ | ⟨beyond, refused⟩
  · exact .inl ⟨within, add (mul count mean) x, by rw [converted]; rfl⟩
  · exact .inr ⟨beyond, by rw [refused]; rfl⟩

end Expression

namespace PlannedRoll

variable {store : AliasStore} {place : Nat} {arguments : List String} {plan : List PlannedRoll}

/-- What is planned of an item may be planned. -/
theorem plannable_of_ofItem {item : Item} {planned : PlannedRoll}
    (done : ofItem item = .ok planned) : planned.expression.Plannable := by
  rw [ofItem, ofText, bind_eq_ok_iff] at done
  obtain ⟨expression, read, done⟩ := done
  obtain ⟨_, checked, same⟩ := bind_eq_ok_iff.1 done
  cases same
  exact Expression.plannable_of_checkLimits (mapError_eq_ok_iff.1 read)
    (mapError_eq_ok_iff.1 checked)

/-- All that is planned may be. -/
theorem plannable_of_ofArguments (planned : ofArguments store place arguments = .ok plan) :
    ∀ planned ∈ plan, planned.expression.Plannable := by
  rw [ofArguments_eq_mapM] at planned
  exact forall_mem_of_mapM (fun _ _ _ => plannable_of_ofItem) planned

/-- What may be planned is planned, by its canonical text unless that is the name of an alias. -/
theorem exists_plan_of_plannable {expression : Expression} (plannable : expression.Plannable) :
    ∃ text, expression.canonical = .ok text ∧
      ∀ (store : AliasStore) (place : Nat), store.get? text = none →
        ofArguments store place [text] = .ok [⟨place, none, text, expression⟩] := by
  obtain ⟨sensible, writable, sides, dice⟩ := plannable
  obtain ⟨text, written, -, read⟩ := Expression.exists_canonical sensible writable
  refine ⟨text, written, fun store place unnamed => ?_⟩
  have checked : expression.checkLimits text = .ok () := by
    rw [Expression.checkLimits, if_neg (Int.not_lt.2 sides), if_neg (Int.not_lt.2 dice)]
  have fits : ofText place none text = .ok ⟨place, none, text, expression⟩ :=
    bind_eq_ok_iff.2 ⟨expression, mapError_eq_ok_iff.2 read,
      bind_eq_ok_iff.2 ⟨(), mapError_eq_ok_iff.2 checked, rfl⟩⟩
  have single : ofArgument store place text = .ok [⟨place, none, text, expression⟩] := by
    rw [ofArgument, unnamed, List.mapM_cons, fits]
    rfl
  rw [ofArguments, single]
  rfl

/-- The averages of a plan are computed unless one of the modifiers is too large. -/
theorem averages_cases (plannable : ∀ planned ∈ plan, planned.expression.Plannable)
    (rows : OrderedMap String Binary64) :
    ((∀ planned ∈ plan, planned.expression.modifier.natAbs < integersEnd) ∧
      ∃ found, averages rows plan = .ok found) ∨
    ((¬ ∀ planned ∈ plan, planned.expression.modifier.natAbs < integersEnd) ∧
      averages rows plan = .error .integerTooLarge) := by
  induction plan generalizing rows with
  | nil => exact .inl ⟨nofun, rows, rfl⟩
  | cons planned rest inductionHypothesis =>
    obtain ⟨here, later⟩ := List.forall_mem_cons.1 plannable
    rw [averages, List.forall_mem_cons]
    rcases here.average_cases with ⟨within, average, computed⟩ | ⟨beyond, refused⟩
    · rw [computed, ok_bind, and_iff_right within]
      exact inductionHypothesis later _
    · rw [refused]
      exact .inr ⟨fun each => Nat.not_lt.2 beyond each.1, rfl⟩

end PlannedRoll

end DiceTray
