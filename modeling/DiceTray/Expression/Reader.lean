import DiceTray.Expression.Basic
import DiceTray.Expression.Error
import DiceTray.Text.Case

/-!
# Reading expressions

White space is dropped and letters are lower-cased first. The normalized text is then read part by
part from left to right: count, `d`, sides, `r`, modifier, repetitions. Each part returns what it
read and the text that is left, and a fault is placed by the text that was left when it was found.
-/

namespace DiceTray.Expression

/-- The characters of a text without white space, in lower case. -/
def normalizeChars (cs : List Char) : List Char :=
  Text.lowercaseChars (cs.filter fun c => !Text.isBlank c)

/-- A text without white space, in lower case. -/
def normalize (text : String) : String :=
  String.ofList (normalizeChars text.toList)

/-- What stops the reader: a cause and the text that was left where it was found, or a number that
has too many digits. -/
inductive Stop
  | refused (cause : Cause) (rest : List Char)
  | number (error : NumberError)
deriving DecidableEq

/-- Reads the longest run of digits, if there is one. -/
def readDigits (cs : List Char) : Except Stop (Option Nat × List Char) :=
  let run := cs.takeWhile Text.isDigit
  if run.isEmpty then .ok (none, cs)
  else if digitLimit < run.length then .error (.number (.tooManyDigits run.length))
  else .ok (some (Text.numeral run), cs.dropWhile Text.isDigit)

/-- Reads the count and the `d` after it; without a number one die is meant. -/
def readCount (text : List Char) : Except Stop (Nat × List Char) := do
  let (count, rest) ← readDigits text
  match rest with
  | [] => .error (.refused .noSeparator rest)
  | c :: after =>
    if c = 'd' then
      match count with
      | none => .ok (1, after)
      | some 0 => .error (.refused .badCount text)
      | some count => .ok (count, after)
    else if 'd' ∈ rest then .error (.refused .badCount text)
    else .error (.refused .noSeparator rest)

/-- Reads the number of sides. -/
def readSides (text : List Char) : Except Stop (Nat × List Char) := do
  let (sides, rest) ← readDigits text
  match sides with
  | none => .error (.refused .noSides rest)
  | some sides => if sides < 2 then .error (.refused .fewSides text) else .ok (sides, rest)

/-- Reads the mark for rerolls, if it is there. -/
def readReroll : List Char → Bool × List Char
  | [] => (false, [])
  | c :: rest => if c = 'r' then (true, rest) else (false, c :: rest)

/-- Reads a signed number, if a sign is there. -/
def readModifier (text : List Char) : Except Stop (Int × List Char) :=
  match text with
  | [] => .ok (0, [])
  | c :: body =>
    if c = '+' ∨ c = '-' then do
      let (value, rest) ← readDigits body
      match value with
      | none => .error (.refused .noModifier rest)
      | some value => .ok (if c = '-' then -(value : Int) else value, rest)
    else .ok (0, text)

/-- Reads the number of repetitions after a star or within brackets, if one of them is there. -/
def readRepetitions (text : List Char) : Except Stop (Nat × List Char) :=
  match text with
  | [] => .ok (1, [])
  | c :: body =>
    if c = '*' ∨ c = '[' then do
      let (value, rest) ← readDigits body
      match value with
      | none => .error (.refused .noRepetitions rest)
      | some 0 => .error (.refused .zeroRepetitions text)
      | some value =>
        let (closed, rest) : Bool × List Char :=
          match rest with
          | [] => (false, [])
          | c :: after => if c = ']' then (true, after) else (false, rest)
        if closed = decide (c = '[') then .ok (value, rest)
        else .error (.refused .unbalancedBracket rest)
    else if c = ']' then .error (.refused .strayBracket text)
    else .ok (1, text)

/-- Reads a normalized text. -/
def readChars (text : List Char) : Except Stop Expression := do
  let (count, rest) ← readCount text
  let (sides, rest) ← readSides rest
  let (reroll, rest) := readReroll rest
  let (modifier, rest) ← readModifier rest
  let (repetitions, rest) ← readRepetitions rest
  if rest.isEmpty then
    .ok { count, sides, reroll, modifier, repetitions }
  else
    .error (.refused (.trailing (String.ofList rest)) rest)

/-- The report on a text whose normalized form was refused. -/
def report (source : String) (normalized : List Char) : Stop → ExpressionError
  | .refused cause rest =>
    .malformed ⟨cause, String.ofList normalized, source, normalized.length - rest.length⟩
  | .number error => .number error

/-- Reads a roll expression. -/
def parse (text : String) : Except ExpressionError Expression :=
  let normalized := normalizeChars text.toList
  (readChars normalized).mapError (report text normalized)

end DiceTray.Expression
