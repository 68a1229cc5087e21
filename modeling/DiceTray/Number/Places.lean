import DiceTray.Number.Binary64

/-!
# Two decimal places

Averages are rounded to hundredths and printed with two places. Both start from the exact value of
the float, and a half goes to the even neighbour.
-/

namespace DiceTray.Binary64

/-- The hundredths nearest to `significand * 2 ^ exponent`. -/
def hundredths (significand : Nat) (exponent : Int) : Nat :=
  roundHalfEven (100 * significand * twoTo exponent.toNat) (twoTo (-exponent).toNat)

/-- The float nearest to the number rounded to hundredths, with the sign kept. -/
def roundPlaces (x : Binary64) : Binary64 :=
  match x.datum with
  | .finite negative significand exponent =>
    ofQuotient negative (hundredths significand exponent) 100
  | _ => x

/-- A count of hundredths as a decimal with two places. -/
def hundredthsText (count : Nat) : String :=
  (count / 100).repr ++ "." ++ (count / 10 % 10).repr ++ (count % 10).repr

/-- The number with two places after the point. -/
def placesText (x : Binary64) : String :=
  match x.datum with
  | .nan => "nan"
  | .infinity negative => if negative then "-inf" else "inf"
  | .finite negative significand exponent =>
    (if negative then "-" else "") ++ hundredthsText (hundredths significand exponent)

end DiceTray.Binary64
