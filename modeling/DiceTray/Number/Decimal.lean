import DiceTray.Number.Error
import DiceTray.Number.Power
import DiceTray.Text.Blank
import DiceTray.Text.Digit

/-!
# Integers in decimal

Writing and reading integers, both bounded by `digitLimit`. Writing is canonical; reading accepts
a sign, the digits of any script, single underscores between digits and white space around.
-/

namespace DiceTray

/-- The canonical decimal text of an integer. -/
def decimal (n : Int) : String :=
  if n < 0 then "-" ++ n.natAbs.repr else n.natAbs.repr

/-- The decimal text of an integer with a sign also when it is not negative. -/
def signedDecimal (n : Int) : String :=
  if n < 0 then decimal n else "+" ++ decimal n

/-- An integer may be written when it has at most `digitLimit` digits. -/
def Writable (n : Int) : Prop :=
  (Nat.toDigits 10 n.natAbs).length ≤ digitLimit

instance (n : Int) : Decidable (Writable n) :=
  inferInstanceAs (Decidable (_ ≤ _))

/-- The decimal text of an integer, if it may be written. -/
def writeInteger (n : Int) : Except NumberError String :=
  if Writable n then .ok (decimal n) else .error .tooLongToWrite

/-- The decimal text of an integer with its sign, if it may be written. -/
def writeSigned (n : Int) : Except NumberError String :=
  if Writable n then .ok (signedDecimal n) else .error .tooLongToWrite

/-- White space that may stand around a written integer: all but the information separators. -/
def isMargin (c : Char) : Bool :=
  Text.isBlank c && !(0x1C ≤ c.toNat && c.toNat ≤ 0x1F)

/-- Splits a sign off; without one the number is positive. -/
def splitSign : List Char → Bool × List Char
  | '-' :: rest => (true, rest)
  | '+' :: rest => (false, rest)
  | cs => (false, cs)

/-- Underscores stand one at a time and only between digits; `digit` tells whether a digit comes
before. -/
def underscoresBetween (digit : Bool) : List Char → Bool
  | [] => digit
  | '_' :: rest => digit && underscoresBetween false rest
  | _ :: rest => underscoresBetween true rest

/-- Reads an integer with white space around it. -/
def readInteger (text : String) : Except NumberError Int :=
  let (negative, body) := splitSign (text.toList.dropWhile isMargin)
  let run := body.takeWhile fun c => Text.isDigit c || c = '_'
  let digits := run.filter (· ≠ '_')
  if !underscoresBetween false run then .error (.notAnInteger text)
  else if digitLimit < digits.length then .error (.tooManyDigits digits.length)
  else if !(body.drop run.length).all isMargin then .error (.notAnInteger text)
  else .ok (if negative then -(Text.numeral digits : Int) else Text.numeral digits)

/-- A number has at most `count` digits exactly when it lies below the power of ten. -/
theorem length_digits_le_iff {n count : Nat} (positive : 0 < count) :
    (Nat.toDigits 10 n).length ≤ count ↔ n < tenTo count :=
  Nat.length_toDigits_le_iff (by decide) positive

/-- An integer may be written exactly when it lies below ten to the digit limit. -/
theorem writable_iff {n : Int} : Writable n ↔ n.natAbs < tenTo digitLimit :=
  length_digits_le_iff (by decide)

end DiceTray
