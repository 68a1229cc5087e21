import DiceTray.Number.Error
import DiceTray.Number.Power
import DiceTray.Number.Rounding

/-!
# Binary floating point

Double precision numbers as the words that encode them. Every operation computes the exact
quotient of integers and rounds it once, so its result is fixed by `encodeQuotient` alone.
-/

namespace DiceTray

/-- A double precision number, given by its encoding. -/
structure Binary64 where
  /-- Sign, exponent and fraction, from the most significant bit down. -/
  bits : UInt64
deriving DecidableEq

namespace Binary64

/-- What an encoding stands for. -/
inductive Datum
  | nan
  | infinity (negative : Bool)
  /-- The number `significand * 2 ^ exponent` with a sign, which zero has as well. -/
  | finite (negative : Bool) (significand : Nat) (exponent : Int)
deriving DecidableEq

/-- The least exponent of a unit in the last place. -/
def leastExponent : Int := -1074

/-- The encoding of infinity without its sign. -/
def infinityCode : Nat := 2047 * twoTo 52

/-- What a number stands for. -/
def datum (x : Binary64) : Datum :=
  let code := x.bits.toNat
  let negative := decide (twoTo 63 ≤ code)
  let biased : Nat := code / twoTo 52 % 2048
  let fraction : Nat := code % twoTo 52
  if biased = 2047 then
    if fraction = 0 then .infinity negative else .nan
  else if biased = 0 then
    .finite negative fraction leastExponent
  else
    .finite negative (fraction + twoTo 52) ((biased : Int) - 1 + leastExponent)

/-- The number of a sign and the encoding without it. -/
def ofCode (negative : Bool) (code : Nat) : Binary64 :=
  ⟨UInt64.ofNat ((if negative then twoTo 63 else 0) + code)⟩

/-- The encoding that stands for no number. -/
def notANumber : Binary64 := ofCode false (infinityCode + twoTo 51)

/-- The integer part of the binary logarithm of a positive quotient. -/
def log2Quotient (numerator denominator : Nat) : Int :=
  let guess : Int := (numerator.log2 : Int) - denominator.log2
  if denominator * twoTo guess.toNat ≤ numerator * twoTo (-guess).toNat then guess else guess - 1

/-- The encoding, without sign, of the number nearest to a quotient; ties go to the even
significand, and what lies beyond the largest number is infinity. -/
def encodeQuotient (numerator denominator : Nat) : Nat :=
  if numerator = 0 then 0
  else
    let exponent := max (log2Quotient numerator denominator - 52) leastExponent
    let significand :=
      roundHalfEven (numerator * twoTo (-exponent).toNat) (denominator * twoTo exponent.toNat)
    min (significand + (exponent - leastExponent).toNat * twoTo 52) infinityCode

/-- The number nearest to a quotient with a sign. -/
def ofQuotient (negative : Bool) (numerator denominator : Nat) : Binary64 :=
  ofCode negative (encodeQuotient numerator denominator)

/-- The number nearest to `significand * 2 ^ exponent` with a sign. -/
def ofScaled (negative : Bool) (significand : Nat) (exponent : Int) : Binary64 :=
  ofQuotient negative (significand * twoTo exponent.toNat) (twoTo (-exponent).toNat)

/-- The number nearest to `significand * 10 ^ exponent` with a sign. -/
def ofDecimal (negative : Bool) (significand : Nat) (exponent : Int) : Binary64 :=
  let places : Int := (Nat.toDigits 10 significand).length
  if significand = 0 ∨ places + exponent < -400 then ofCode negative 0
  else if 400 < places + exponent then ofCode negative infinityCode
  else ofQuotient negative (significand * tenTo exponent.toNat) (tenTo (-exponent).toNat)

/-- The number nearest to an integer, refused beyond the largest number. -/
def ofInteger (n : Int) : Except NumberError Binary64 :=
  let code := encodeQuotient n.natAbs 1
  if code = infinityCode then .error .integerTooLarge else .ok (ofCode (n < 0) code)

/-- The number nearest to the quotient of two integers, refused beyond the largest number. -/
def ofIntegers (numerator denominator : Int) : Except NumberError Binary64 :=
  if denominator = 0 then .error .divisionByZero
  else
    let code := encodeQuotient numerator.natAbs denominator.natAbs
    if code = infinityCode then .error .quotientTooLarge
    else .ok (ofCode (decide (numerator < 0) != decide (denominator < 0)) code)

/-- An integer with a sign. -/
def signed (negative : Bool) (magnitude : Nat) : Int :=
  if negative then -(magnitude : Int) else magnitude

/-- The sum of two numbers. An exact zero is positive unless both are negative. -/
def add (x y : Binary64) : Binary64 :=
  match x.datum, y.datum with
  | .nan, _ | _, .nan => notANumber
  | .infinity s, .infinity t => if s = t then ofCode s infinityCode else notANumber
  | .infinity s, .finite .. | .finite .., .infinity s => ofCode s infinityCode
  | .finite s m e, .finite t n f =>
    let exponent := min e f
    let sum := signed s (m * twoTo (e - exponent).toNat) + signed t (n * twoTo (f - exponent).toNat)
    ofScaled (if sum = 0 then s && t else decide (sum < 0)) sum.natAbs exponent

/-- The product of two numbers. -/
def mul (x y : Binary64) : Binary64 :=
  match x.datum, y.datum with
  | .nan, _ | _, .nan => notANumber
  | .infinity s, .infinity t => ofCode (s != t) infinityCode
  | .infinity s, .finite t n _ | .finite t n _, .infinity s =>
    if n = 0 then notANumber else ofCode (s != t) infinityCode
  | .finite s m e, .finite t n f => ofScaled (s != t) (m * n) (e + f)

/-- The quotient of two numbers; zero divides nothing. -/
def div (x y : Binary64) : Except NumberError Binary64 :=
  match x.datum, y.datum with
  | _, .finite _ 0 _ => .error .divisionByZero
  | .nan, _ | _, .nan | .infinity _, .infinity _ => .ok notANumber
  | .infinity s, .finite t .. => .ok (ofCode (s != t) infinityCode)
  | .finite s .., .infinity t => .ok (ofCode (s != t) 0)
  | .finite s m e, .finite t n f =>
    .ok (ofQuotient (s != t) (m * twoTo (e - f).toNat) (n * twoTo (f - e).toNat))

end Binary64

end DiceTray
