import DiceTray.Number.Decimal

/-!
# Roll expressions

What a roll expression asks for: how many dice of how many sides, whether ones are rolled again,
what is added, and how often the whole roll is repeated.
-/

namespace DiceTray

/-- A roll expression. Only expressions that were read from a text are sure to be `Sensible`. -/
structure Expression where
  count : Int
  sides : Int
  /-- Whether a die that shows one is rolled again, once. -/
  reroll : Bool := false
  modifier : Int := 0
  repetitions : Int := 1
deriving DecidableEq, Repr

/-- Expressions that some text writes: something is rolled, and a die has two sides at least. -/
def Expression.Sensible (expression : Expression) : Prop :=
  1 ≤ expression.count ∧ 2 ≤ expression.sides ∧ 1 ≤ expression.repetitions

instance (expression : Expression) : Decidable expression.Sensible :=
  inferInstanceAs (Decidable (_ ∧ _ ∧ _))

/-- The shortest text of an expression: a single repetition, a zero modifier and the absence of
rerolls are not written. -/
def Expression.canonical (expression : Expression) : Except NumberError String := do
  let count ← writeInteger expression.count
  let sides ← writeInteger expression.sides
  let modifier ← if expression.modifier = 0 then pure "" else writeSigned expression.modifier
  let repetitions ←
    if expression.repetitions = 1 then pure ""
    else ("*" ++ ·) <$> writeInteger expression.repetitions
  return count ++ "d" ++ sides ++ (if expression.reroll then "r" else "") ++ modifier ++ repetitions

end DiceTray
