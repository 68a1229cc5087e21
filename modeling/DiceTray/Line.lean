import DiceTray.Number.Places
import DiceTray.Roll
import DiceTray.Text.Layout

/-!
# Lines of a roll

Each result becomes a line of fields: the total, the text that was rolled, the dice, and the
modifier if there is one. The totals of a batch are aligned on the right.
-/

namespace DiceTray

/-- What is special about the value of a die. -/
inductive Face
  | highest
  | lowest
  | ordinary
deriving DecidableEq, Repr

/-- The name of a face in structured answers. -/
def Face.code : Face → String
  | .highest => "max"
  | .lowest => "min"
  | .ordinary => "neutral"

/-- The face of a value; on a die with one side the highest face counts. -/
def Face.ofValue (value sides : Int) : Face :=
  if value = sides then .highest else if value = 1 then .lowest else .ordinary

/-- A die in a line. -/
structure Die where
  value : Int
  face : Face
deriving DecidableEq, Repr

/-- The fields of a line. -/
structure Line where
  /-- The total, padded to the width of the batch. -/
  total : String
  text : String
  dice : List Die
  /-- The modifier in parentheses, or nothing. -/
  modifier : String := ""
deriving DecidableEq, Repr

/-- The fields of a line stand two blanks apart. -/
def fieldGap : String := "  "

/-- The dice of a line with single blanks between them. -/
def Line.diceText (line : Line) : Except NumberError String := do
  let values ← line.dice.mapM fun die => writeInteger die.value
  return " ".intercalate values

/-- A line without highlights. -/
def Line.plain (line : Line) : Except NumberError String := do
  let dice ← line.diceText
  return line.total ++ fieldGap ++ line.text ++ fieldGap ++ dice ++
    (if line.modifier.isEmpty then "" else fieldGap ++ line.modifier)

/-- A modifier with its sign in parentheses; zero is not shown. -/
def modifierField (modifier : Int) : Except NumberError String :=
  if modifier = 0 then .ok ""
  else return "(" ++ (← writeSigned modifier) ++ ")"

/-- The width of the longest of some texts. -/
def commonWidth (texts : List String) : Nat :=
  texts.foldl (fun width text => max width text.length) 0

/-- The line of a result, with its total padded to a width. -/
def Line.ofResult (width : Nat) (sides : Int) (text : String) (result : Result) :
    Except NumberError Line := do
  let total ← writeInteger result.total
  let modifier ← modifierField result.modifier
  return {
    total := Text.padLeft width total, text, modifier
    dice := result.rolls.map fun value => ⟨value, .ofValue value sides⟩ }

/-- The lines of a batch of results. -/
def Line.ofResults (sides : Int) (text : String) (results : List Result) :
    Except NumberError (List Line) := do
  let totals ← results.mapM fun result => writeInteger result.total
  results.mapM (Line.ofResult (commonWidth totals) sides text)

/-- The rows of averages, each a text padded on the right and its average with two places. -/
def averageLines (rows : List (String × Binary64)) : List String :=
  let width := commonWidth (rows.map Prod.fst)
  rows.map fun row => Text.padRight width row.1 ++ fieldGap ++ row.2.placesText

end DiceTray
