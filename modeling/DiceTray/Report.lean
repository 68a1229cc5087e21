import DiceTray.Average
import DiceTray.Expression.Reader
import DiceTray.Fault
import DiceTray.Line

/-!
# Reports

The structured answer to a text: what was rolled, what came of it, and how it is shown and
explained. All parts of a report are views of the same results.
-/

namespace DiceTray

/-- The result of a repetition with its faces and its line. -/
structure ReportedResult where
  result : Result
  faces : List Face
  line : String
deriving DecidableEq, Repr

/-- The answer to a text that was rolled. -/
structure Report where
  /-- The text as it was given. -/
  input : String
  expression : Expression
  canonical : String
  sourceName : String
  results : List ReportedResult
  /-- What was rolled and what it adds up to, in one sentence. -/
  explanation : String
deriving DecidableEq, Repr

/-- The explanation of a result: its dice, its modifier unless it is zero, and its total. -/
def Result.explain (result : Result) : Except NumberError String := do
  let rolls ← result.rolls.mapM writeInteger
  let modifier ←
    if result.modifier = 0 then pure "" else (" " ++ ·) <$> writeSigned result.modifier
  let total ← writeInteger result.total
  return "rolls [" ++ ", ".intercalate rolls ++ "]" ++ modifier ++ " => " ++ total

/-- The report on results. -/
def Report.ofResults (input : String) (expression : Expression) (sourceName : String)
    (results : List Result) : Except NumberError Report := do
  let lines ← Line.ofResults expression.sides (Text.trim input) results
  let explanations ← results.mapM Result.explain
  let canonical ← expression.canonical
  let texts ← lines.mapM Line.plain
  return {
    input, expression, canonical, sourceName
    results := (results.zip (lines.zip texts)).map fun entry =>
      ⟨entry.1, entry.2.1.dice.map Die.face, entry.2.2⟩
    explanation := canonical ++ ": " ++ "; ".intercalate explanations }

/-- Reads a text, rolls it and reports. -/
def Report.roll {σ : Type} [RandomSource σ] (text : String) (source : σ) :
    Except Fault Report × σ :=
  match Expression.parse text with
  | .error error => (.error (.ofExpression error), source)
  | .ok expression =>
    match expression.roll source with
    | (.error error, source) => (.error (.draw error), source)
    | (.ok results, source) =>
      ((Report.ofResults text expression (RandomSource.name source) results).mapError .number,
        source)

/-- The answer to a text whose average was asked for. -/
structure AverageReport where
  /-- The text as it was given. -/
  input : String
  canonical : String
  /-- The average, rounded to hundredths. -/
  average : Binary64
deriving DecidableEq

/-- Reads a text and reports its average. -/
def AverageReport.ofText (text : String) : Except Fault AverageReport := do
  let expression ← (Expression.parse text).mapError .ofExpression
  let canonical ← expression.canonical.mapError .number
  let average ← expression.average.mapError .number
  return ⟨text, canonical, average.roundPlaces⟩

end DiceTray
