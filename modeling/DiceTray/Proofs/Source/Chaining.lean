import DiceTray.Roll

/-!
# Rolls as chains of draws

A roll is put together from draws by going on with what was drawn, and by nothing else. So what
relates the draws of two sources, and goes on to hold when related computations follow each other,
relates the rolls from these sources.
-/

namespace DiceTray

variable {α β σ τ : Type}

/-- Goes on with what a computation gives, unless it fails. -/
def chain (first : σ → Except DrawError α × σ) (next : α → σ → Except DrawError β × σ)
    (source : σ) : Except DrawError β × σ :=
  match first source with
  | (.error error, source) => (.error error, source)
  | (.ok value, source) => next value source

variable [RandomSource σ] [RandomSource τ]

/-- A relation between computations with two sources that holds where nothing is drawn and where a
die is drawn, and of one computation after the other when it holds of both. -/
structure Lockstep (sides : Int)
    (related : (α : Type) → (σ → Except DrawError α × σ) → (τ → Except DrawError α × τ) → Prop) :
    Prop where
  /-- Nothing is drawn. -/
  value {α : Type} (value : α) :
    related α (fun source => (.ok value, source)) fun other => (.ok value, other)
  /-- A die is drawn. -/
  draw : related Int (fun source => draw source 1 sides) fun other => draw other 1 sides
  /-- A computation goes on with the value of another one. -/
  chain {α β : Type} {first : σ → Except DrawError α × σ} {first' : τ → Except DrawError α × τ}
    {next : α → σ → Except DrawError β × σ} {next' : α → τ → Except DrawError β × τ}
    (begun : related α first first') (rest : ∀ value, related β (next value) (next' value)) :
    related β (chain first next) (chain first' next')

/-- Doing something again and again is related when doing it once is. -/
theorem Lockstep.collect {sides : Int}
    {related : (α : Type) → (σ → Except DrawError α × σ) → (τ → Except DrawError α × τ) → Prop}
    (lockstep : Lockstep sides related) {step : σ → Except DrawError α × σ}
    {step' : τ → Except DrawError α × τ} (once : related α step step') (count : Nat)
    (done : List α) : related (List α) (collect step count done) (collect step' count done) := by
  induction count generalizing done with
  | zero => exact lockstep.value done.reverse
  | succ count inductionHypothesis =>
    exact lockstep.chain once fun value => inductionHypothesis (value :: done)

namespace Expression

variable (expression : Expression)

theorem rollDie_eq_chain : (expression.rollDie : σ → Except DrawError Int × σ) =
    chain (fun source => draw source 1 expression.sides) fun value source =>
      if expression.reroll ∧ value = 1 then draw source 1 expression.sides
      else (.ok value, source) := by
  funext source
  rw [rollDie, chain]
  rcases draw source 1 expression.sides with ⟨error | value, after⟩ <;> rfl

theorem rollOnce_eq_chain : (expression.rollOnce : σ → Except DrawError Result × σ) =
    chain (collect expression.rollDie expression.count.toNat []) fun rolls source =>
      (.ok (Result.ofRolls expression.modifier rolls), source) := by
  funext source
  rw [rollOnce, chain]
  rcases collect expression.rollDie expression.count.toNat [] source with ⟨error | rolls, after⟩ <;>
    rfl

end Expression

variable {expression : Expression}
variable {related :
  (α : Type) → (σ → Except DrawError α × σ) → (τ → Except DrawError α × τ) → Prop}

theorem Lockstep.rollDie (lockstep : Lockstep expression.sides related) :
    related Int expression.rollDie expression.rollDie := by
  rw [Expression.rollDie_eq_chain, Expression.rollDie_eq_chain]
  refine lockstep.chain lockstep.draw fun value => ?_
  by_cases again : expression.reroll ∧ value = 1
  · simp only [if_pos again]
    exact lockstep.draw
  · simp only [if_neg again]
    exact lockstep.value value

theorem Lockstep.rollOnce (lockstep : Lockstep expression.sides related) :
    related Result expression.rollOnce expression.rollOnce := by
  rw [Expression.rollOnce_eq_chain, Expression.rollOnce_eq_chain]
  exact lockstep.chain (lockstep.collect lockstep.rollDie _ []) fun rolls =>
    lockstep.value (Result.ofRolls expression.modifier rolls)

/-- The rolls from two sources are related as their draws are. -/
theorem Lockstep.roll (lockstep : Lockstep expression.sides related) :
    related (List Result) expression.roll expression.roll :=
  lockstep.collect lockstep.rollOnce _ []

end DiceTray
