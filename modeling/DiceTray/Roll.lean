import DiceTray.Expression.Basic
import DiceTray.Source.Basic

/-!
# Rolling

Draws the dice of an expression from a source, die by die and repetition by repetition. A source
that refuses a draw ends the roll, and its state is kept either way.
-/

namespace DiceTray

/-- The dice of one repetition and what they add up to. -/
structure Result where
  /-- The values that count, in the order of the dice. -/
  rolls : List Int
  modifier : Int
  total : Int
deriving DecidableEq, Repr

/-- The result of dice and a modifier. -/
def Result.ofRolls (modifier : Int) (rolls : List Int) : Result :=
  ⟨rolls, modifier, rolls.foldr (· + ·) 0 + modifier⟩

namespace Expression

variable {σ : Type} [RandomSource σ]

/-- Rolls one die. With rerolls a first one is replaced by a second draw, whatever that gives. -/
def rollDie (expression : Expression) (source : σ) : Except DrawError Int × σ :=
  match draw source 1 expression.sides with
  | (.error error, source) => (.error error, source)
  | (.ok value, source) =>
    if expression.reroll ∧ value = 1 then draw source 1 expression.sides else (.ok value, source)

/-- Rolls the dice of one repetition; a count that is not positive means no dice. -/
def rollOnce (expression : Expression) (source : σ) : Except DrawError Result × σ :=
  match collect expression.rollDie expression.count.toNat [] source with
  | (.error error, source) => (.error error, source)
  | (.ok rolls, source) => (.ok (.ofRolls expression.modifier rolls), source)

/-- Rolls all repetitions; a number of repetitions that is not positive means none. -/
def roll (expression : Expression) (source : σ) : Except DrawError (List Result) × σ :=
  collect expression.rollOnce expression.repetitions.toNat [] source

end Expression

end DiceTray
