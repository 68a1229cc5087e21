import DiceTray.Text.Quoted
import DiceTray.Number.Error

/-!
# Malformed expressions

The causes for which a text is no roll expression, the kind that each belongs to, and the wording
of the report.
-/

namespace DiceTray

/-- Which part of an expression is wrong. -/
inductive PartKind
  | separator
  | count
  | sides
  | modifier
  | repetitions
  | trailing
deriving DecidableEq, Repr

/-- The code of a kind, stable across wordings. -/
def PartKind.code : PartKind → String
  | .separator => "MISSING_DIE_SEPARATOR"
  | .count => "INVALID_COUNT"
  | .sides => "INVALID_SIDES"
  | .modifier => "INVALID_MODIFIER"
  | .repetitions => "INVALID_REPEAT"
  | .trailing => "TRAILING_INPUT"

/-- Why a text is no expression. -/
inductive Cause
  | noSeparator
  /-- The text before the `d` is no positive number. -/
  | badCount
  | noSides
  /-- A die would have fewer than two sides. -/
  | fewSides
  | noModifier
  /-- A closing bracket has no opening one. -/
  | strayBracket
  | noRepetitions
  | zeroRepetitions
  /-- An opening bracket is not closed, or a closing one ends a star. -/
  | unbalancedBracket
  | trailing (rest : String)
deriving DecidableEq, Repr

/-- The part that a cause concerns. -/
def Cause.kind : Cause → PartKind
  | .noSeparator => .separator
  | .badCount => .count
  | .noSides | .fewSides => .sides
  | .noModifier => .modifier
  | .strayBracket | .noRepetitions | .zeroRepetitions | .unbalancedBracket => .repetitions
  | .trailing _ => .trailing

/-- The explanation of a cause. -/
def Cause.detail : Cause → String
  | .noSeparator => "Expected a 'd' between count and sides. Example: '1d20'."
  | .badCount => "Dice count must be a positive integer. Example: '2d6'."
  | .noSides => "Missing die size after 'd'. Example: 'd20'."
  | .fewSides => "A die must have at least 2 sides. Example: '2d6'."
  | .noModifier => "Expected a number after the modifier sign. Example: '1d20+4'."
  | .strayBracket => "Unmatched ']' in repeat suffix. Example: '2d6[5]'."
  | .noRepetitions => "Expected a repeat count. Example: '2d6*5' or '2d6[5]'."
  | .zeroRepetitions => "Repeat count must be a positive integer. Example: '2d6*5'."
  | .unbalancedBracket => "Mismatched bracket in repeat suffix. Example: '2d6[5]'."
  | .trailing rest =>
    "Unexpected trailing input " ++ Text.quoted rest ++ ". Example: '2d6r+2*3'."

/-- The report on a text that is no expression. -/
structure ParseError where
  cause : Cause
  /-- The normalized text. -/
  text : String
  /-- The text as it was given. -/
  source : String
  /-- Where in the normalized text the cause was found. -/
  position : Nat
deriving DecidableEq, Repr

/-- The wording of a report. -/
def ParseError.message (error : ParseError) : String :=
  "[" ++ error.cause.kind.code ++ "] " ++ error.cause.detail ++ " (in " ++ Text.quoted error.text ++
    " at position " ++ toString error.position ++ ")"

/-- Why an expression could not be read: its form is wrong, or one of its numbers is too long. -/
inductive ExpressionError
  | malformed (error : ParseError)
  /-- A number has more digits than are read. -/
  | number (error : NumberError)
deriving DecidableEq

/-- The wording of an error. -/
def ExpressionError.message : ExpressionError → String
  | .malformed error => error.message
  | .number error => error.message

end DiceTray
