import DiceTray.Number.Binary64

/-!
# Shortest decimal text

The fewest significant digits that read back as the same float, and of those the nearest. Numbers
from `10 ^ -4` up to below `10 ^ 16` are written positionally, all others with an exponent of at
least two digits.
-/

namespace DiceTray.Binary64

/-- The reals that round to a finite positive float, as multiples of a quarter of its unit in the
last place; the ends belong to the interval when the significand is even. -/
structure Neighborhood where
  lower : Nat
  /-- The float itself. -/
  center : Nat
  upper : Nat
  /-- Whether the ends round to the float. -/
  closed : Bool

/-- The reals that round to `significand * 2 ^ exponent`. The gap below a power of two is half as
wide as the one above. -/
def neighborhood (significand : Nat) (exponent : Int) : Neighborhood where
  lower :=
    if significand = twoTo 52 ∧ leastExponent < exponent then 4 * significand - 1
    else 4 * significand - 2
  center := 4 * significand
  upper := 4 * significand + 2
  closed := significand % 2 = 0

/-- A decimal with the given digits, of which the first counts `10 ^ power`. -/
structure Digits where
  /-- The digits as one number without trailing zeros. -/
  value : Nat
  /-- The power of ten of the first digit. -/
  power : Int

/-- The integer part of the decimal logarithm of a positive quotient. -/
def log10Quotient (numerator denominator : Nat) : Int :=
  let guess : Int :=
    ((Nat.toDigits 10 numerator).length : Int) - (Nat.toDigits 10 denominator).length
  if denominator * tenTo guess.toNat ≤ numerator * tenTo (-guess).toNat then guess else guess - 1

/-- The grid point nearest to the center among the two neighbours that lie in the interval, on the
grid of multiples of `10 ^ place`; all ends count quarters, which are `numerator / denominator`. -/
def Neighborhood.gridPoint? (hood : Neighborhood) (numerator denominator : Nat) (place : Int) :
    Option Nat :=
  let top := numerator * tenTo (-place).toNat
  let bottom := denominator * tenTo place.toNat
  let inside (point : Nat) : Bool :=
    if hood.closed then
      hood.lower * top ≤ point * bottom && point * bottom ≤ hood.upper * top
    else
      hood.lower * top < point * bottom && point * bottom < hood.upper * top
  let below := hood.center * top / bottom
  let remainder := hood.center * top % bottom
  let nearest := roundHalfEven (hood.center * top) bottom
  let other := if nearest = below then below + 1 else below
  if inside nearest then some nearest
  else if 0 < remainder && inside other then some other
  else none

/-- The shortest decimal that reads back as `significand * 2 ^ exponent`, which is positive: a point
of the first grid, from coarse to fine, that has one in the interval. Seventeen digits suffice. -/
def shortestDigits (significand : Nat) (exponent : Int) : Digits :=
  let hood := neighborhood significand exponent
  let numerator := twoTo (exponent - 2).toNat
  let denominator := twoTo (2 - exponent).toNat
  let power := log10Quotient (hood.center * numerator) denominator
  let found := (List.range 17).findSome? fun (count : Nat) =>
    (hood.gridPoint? numerator denominator (power - count)).map fun point =>
      if point = tenTo (count + 1) then Digits.mk 1 (power + 1) else Digits.mk point power
  found.getD ⟨1, power⟩

/-- Numbers are written positionally from this power of ten of the first digit on … -/
def leastPositional : Int := -4

/-- … and with an exponent from this one on. -/
def leastScientific : Int := 16

/-- A decimal in positional notation, with a point and at least one place. -/
def Digits.positional (digits : Digits) : String :=
  let run := Nat.toDigits 10 digits.value
  if digits.power < 0 then
    "0." ++ String.ofList (List.replicate (-digits.power - 1).toNat '0' ++ run)
  else
    let whole := digits.power.toNat + 1
    let places := run.drop whole
    String.ofList (run.take whole ++ List.replicate (whole - run.length) '0') ++ "." ++
      (if places.isEmpty then "0" else String.ofList places)

/-- A decimal with one digit before the point and a signed exponent. -/
def Digits.scientific (digits : Digits) : String :=
  let run := Nat.toDigits 10 digits.value
  let size := digits.power.natAbs.repr
  String.ofList (run.take 1) ++
    (if run.length = 1 then "" else "." ++ String.ofList (run.drop 1)) ++
    (if digits.power < 0 then "e-" else "e+") ++ (if size.length < 2 then "0" ++ size else size)

/-- The shortest text that reads back as the number. -/
def shortestText (x : Binary64) : String :=
  match x.datum with
  | .nan => "nan"
  | .infinity negative => if negative then "-inf" else "inf"
  | .finite negative 0 _ => if negative then "-0.0" else "0.0"
  | .finite negative significand exponent =>
    let digits := shortestDigits significand exponent
    (if negative then "-" else "") ++
      if leastPositional ≤ digits.power ∧ digits.power < leastScientific then digits.positional
      else digits.scientific

end DiceTray.Binary64
