import DiceTray.Expression.Basic
import DiceTray.Number.Binary64

/-!
# Averages

The expected total of an expression, computed by one formula in an arithmetic that is a parameter.
In the rationals it is the exact mean; the program computes it in double precision, where every
operation rounds and large integers are refused.
-/

namespace DiceTray

/-- The operations that the average is computed with. -/
structure Arithmetic (α : Type) where
  ofInteger : Int → Except NumberError α
  /-- The quotient of two integers. -/
  ofIntegers : Int → Int → Except NumberError α
  add : α → α → α
  mul : α → α → α
  div : α → α → Except NumberError α

/-- Double precision arithmetic. -/
def Arithmetic.binary64 : Arithmetic Binary64 where
  ofInteger := Binary64.ofInteger
  ofIntegers := Binary64.ofIntegers
  add := Binary64.add
  mul := Binary64.mul
  div := Binary64.div

/-- Exact arithmetic. -/
def Arithmetic.exact : Arithmetic Rat where
  ofInteger n := .ok n
  ofIntegers n m := if m = 0 then .error .divisionByZero else .ok (n / m)
  add := (· + ·)
  mul := (· * ·)
  div x y := if y = 0 then .error .divisionByZero else .ok (x / y)

namespace Expression

variable {α : Type}

/-- The mean of a single die. The faces of a die add up to `sides * (sides + 1) / 2`; with rerolls
the face one is replaced by the plain mean. -/
def meanDieIn (arithmetic : Arithmetic α) (expression : Expression) : Except NumberError α := do
  let plain ← arithmetic.ofIntegers (expression.sides + 1) 2
  if expression.reroll then
    let faces ← arithmetic.ofInteger (expression.sides * (expression.sides + 1) / 2)
    let minusOne ← arithmetic.ofInteger (-1)
    let sides ← arithmetic.ofInteger expression.sides
    arithmetic.div (arithmetic.add (arithmetic.add plain faces) minusOne) sides
  else
    return plain

/-- The mean total of one repetition in an arithmetic. -/
def averageIn (arithmetic : Arithmetic α) (expression : Expression) : Except NumberError α := do
  let die ← expression.meanDieIn arithmetic
  let count ← arithmetic.ofInteger expression.count
  let dice := arithmetic.mul count die
  let modifier ← arithmetic.ofInteger expression.modifier
  return arithmetic.add dice modifier

/-- The mean total of one repetition in double precision. -/
def average (expression : Expression) : Except NumberError Binary64 :=
  expression.averageIn .binary64

end Expression

end DiceTray
