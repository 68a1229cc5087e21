import DiceTray.Text.Quoted

/-!
# Number errors

What can go wrong between numbers and their texts, and between integers and binary floating
point, with the wording of each.
-/

namespace DiceTray

/-- The most decimal digits with which an integer is read or written. -/
def digitLimit : Nat := 4300

/-- Why a number could not be read, written or converted. -/
inductive NumberError
  /-- A text to be read has more digits than the limit allows. -/
  | tooManyDigits (digits : Nat)
  | tooLongToWrite
  | notAnInteger (text : String)
  /-- The quotient of two integers lies beyond the largest float. -/
  | quotientTooLarge
  /-- An integer lies beyond the largest float. -/
  | integerTooLarge
  | divisionByZero
deriving DecidableEq

/-- A message shows at most this many characters of the quoted text that is no integer. -/
def NumberError.shownLength : Nat := 200

/-- The wording of a number error. -/
def NumberError.message : NumberError → String
  | .tooManyDigits digits =>
    "Exceeds the limit (" ++ toString digitLimit ++ " digits) for integer string conversion: " ++
      "value has " ++ toString digits ++
      " digits; use sys.set_int_max_str_digits() to increase the limit"
  | .tooLongToWrite =>
    "Exceeds the limit (" ++ toString digitLimit ++ " digits) for integer string conversion; " ++
      "use sys.set_int_max_str_digits() to increase the limit"
  | .notAnInteger text =>
    "invalid literal for int() with base 10: " ++
      String.ofList ((Text.quotedChars text.toList).take shownLength)
  | .quotientTooLarge => "integer division result too large for a float"
  | .integerTooLarge => "int too large to convert to float"
  | .divisionByZero => "float division by zero"

end DiceTray
