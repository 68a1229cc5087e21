import DiceTray.Proofs.Source.Replay
import Mathlib.Algebra.Order.BigOperators.Group.List
import Mathlib.Algebra.Order.Ring.Int

/-!
# The results of a roll

What a roll that succeeds comes to, whatever the source: one result for each repetition, each with
one value for each die, to which nothing but the modifier was added. What a source ensures of each
value that it gives holds of all of these.
-/

namespace DiceTray

variable {α σ : Type}

/-- What was done again and again gave a value each time, and each step ensured what it does. -/
theorem exists_of_collect {property : α → Prop} {step : σ → Except DrawError α × σ}
    (each : ∀ source value after, step source = (.ok value, after) → property value) {count : Nat}
    {done values : List α} {source after : σ}
    (collected : collect step count done source = (.ok values, after)) :
    ∃ made, values = done.reverse ++ made ∧ made.length = count ∧
      ∀ value ∈ made, property value := by
  induction count generalizing done source with
  | zero =>
    cases collected
    exact ⟨[], (List.append_nil _).symm, rfl, nofun⟩
  | succ count inductionHypothesis =>
    rw [collect] at collected
    rcases stepped : step source with ⟨error | value, middle⟩ <;> rw [stepped] at collected
    · cases collected
    · obtain ⟨made, rfl, length, holds⟩ := inductionHypothesis collected
      refine ⟨value :: made, by simp, by simp [length], List.forall_mem_cons.2 ⟨?_, holds⟩⟩
      exact each source value middle stepped

namespace Expression

variable [RandomSource σ] {expression : Expression} {property : Int → Prop}

/-- What holds of every value that the source gives holds of the value of a die. -/
theorem holds_of_rollDie
    (each : ∀ (source : σ) value after,
      draw source 1 expression.sides = (.ok value, after) → property value)
    (source : σ) (value : Int) (after : σ)
    (rolled : expression.rollDie source = (.ok value, after)) : property value := by
  rw [rollDie_eq_chain, chain] at rolled
  rcases first : draw source 1 expression.sides with ⟨error | drawn, middle⟩ <;>
    rw [first] at rolled
  · cases rolled
  · dsimp only at rolled
    split at rolled
    · exact each middle value after rolled
    · cases rolled
      exact each source value after first

/-- A result of an expression has its modifier and a value for each of its dice. -/
def Gives (expression : Expression) (property : Int → Prop) (result : Result) : Prop :=
  ∃ rolls, result = .ofRolls expression.modifier rolls ∧ rolls.length = expression.count.toNat ∧
    ∀ value ∈ rolls, property value

theorem Gives.modifier_eq {result : Result} (gives : expression.Gives property result) :
    result.modifier = expression.modifier := by
  obtain ⟨rolls, rfl, -⟩ := gives
  rfl

/-- The total of a result lies between what the bounds of its values come to. -/
theorem Gives.total_bounds {low high : Int} {result : Result}
    (gives : expression.Gives (fun value => low ≤ value ∧ value ≤ high) result)
    (counted : 0 ≤ expression.count) :
    expression.count * low + expression.modifier ≤ result.total ∧
      result.total ≤ expression.count * high + expression.modifier := by
  obtain ⟨rolls, rfl, length, within⟩ := gives
  have least := rolls.card_nsmul_le_sum low fun value member => (within value member).1
  have most := rolls.sum_le_card_nsmul high fun value member => (within value member).2
  rw [length, nsmul_eq_mul, Int.natCast_toNat_eq_self.2 counted] at least most
  exact ⟨Int.add_le_add_right least _, Int.add_le_add_right most _⟩

theorem gives_of_rollOnce
    (each : ∀ (source : σ) value after,
      draw source 1 expression.sides = (.ok value, after) → property value)
    (source : σ) (result : Result) (after : σ)
    (rolled : expression.rollOnce source = (.ok result, after)) :
    expression.Gives property result := by
  rw [rollOnce_eq_chain, chain] at rolled
  rcases collected : collect expression.rollDie expression.count.toNat [] source with
    ⟨error | rolls, middle⟩ <;> rw [collected] at rolled
  · cases rolled
  · cases rolled
    obtain ⟨made, rfl, length, holds⟩ := exists_of_collect (holds_of_rollDie each) collected
    exact ⟨rolls, rfl, length, holds⟩

/-- A roll that succeeds gives one such result for each repetition. -/
theorem gives_of_roll
    (each : ∀ (source : σ) value after,
      draw source 1 expression.sides = (.ok value, after) → property value)
    {source after : σ} {results : List Result}
    (rolled : expression.roll source = (.ok results, after)) :
    results.length = expression.repetitions.toNat ∧
      ∀ result ∈ results, expression.Gives property result := by
  obtain ⟨made, rfl, length, holds⟩ := exists_of_collect (gives_of_rollOnce each) rolled
  exact ⟨length, holds⟩

end Expression

end DiceTray
