import DiceTray.Number.Decimal

/-!
# Random sources

A random source answers requests for an integer between two bounds and changes its state with every
request, also with one that it refuses. Rolling is generic over the source.
-/

namespace DiceTray

/-- Why a source gives no integer. -/
inductive DrawError
  | exhausted
  | outOfRange (value minimum maximum : Int)
  | emptyRange (minimum maximum : Int)
  /-- A number is too long to be reported. -/
  | number (error : NumberError)
deriving DecidableEq

/-- The wording of a draw error. -/
def DrawError.message : DrawError → String
  | .exhausted => "[RANDOM_SOURCE] Scripted source exhausted."
  | .outOfRange value minimum maximum =>
    "[RANDOM_SOURCE] Source returned " ++ decimal value ++ ", outside [" ++ decimal minimum ++
      ", " ++ decimal maximum ++ "]."
  | .emptyRange minimum maximum =>
    "empty range for randrange() (" ++ decimal minimum ++ ", " ++ decimal (maximum + 1) ++ ", " ++
      decimal (maximum + 1 - minimum) ++ ")"
  | .number error => error.message

/-- The error for a value outside the bounds, as far as its numbers may be written. -/
def DrawError.ofValue (value minimum maximum : Int) : DrawError :=
  if Writable value ∧ Writable minimum ∧ Writable maximum then .outOfRange value minimum maximum
  else .number .tooLongToWrite

/-- The error for bounds with no integer between them, as far as its numbers may be written. -/
def DrawError.ofBounds (minimum maximum : Int) : DrawError :=
  if Writable minimum ∧ Writable (maximum + 1) ∧ Writable (maximum + 1 - minimum) then
    .emptyRange minimum maximum
  else .number .tooLongToWrite

/-- States that answer requests for integers. -/
class RandomSource (σ : Type) where
  /-- Answers a request with inclusive bounds. -/
  draw : σ → Int → Int → Except DrawError Int × σ
  name : σ → String

export RandomSource (draw)

/-- Does something `count` times, one after the other, and adds the values to those in `done`,
newest first; the first error ends it. -/
def collect {α σ : Type} (step : σ → Except DrawError α × σ) :
    Nat → List α → σ → Except DrawError (List α) × σ
  | 0, done, source => (.ok done.reverse, source)
  | count + 1, done, source =>
    match step source with
    | (.error error, source) => (.error error, source)
    | (.ok value, source) => collect step count (value :: done) source

/-- A source that answers with the values of a script, whatever the bounds. -/
structure Script where
  left : List Int
  /-- The requests made, newest first. -/
  asked : List (Int × Int)
deriving DecidableEq

namespace Script

/-- A script that nothing was asked of. -/
def ofList (values : List Int) : Script := ⟨values, []⟩

/-- The requests made, oldest first. -/
def calls (script : Script) : List (Int × Int) := script.asked.reverse

/-- Answers with the next value and notes the request, also when no value is left. -/
def next (script : Script) (minimum maximum : Int) : Except DrawError Int × Script :=
  match script.left with
  | [] => (.error .exhausted, ⟨[], (minimum, maximum) :: script.asked⟩)
  | value :: left => (.ok value, ⟨left, (minimum, maximum) :: script.asked⟩)

instance : RandomSource Script where
  draw := next
  name _ := "scripted"

end Script

/-- A source that always answers with one value. -/
structure Constant where
  value : Int
deriving DecidableEq

instance : RandomSource Constant where
  draw source _ _ := (.ok source.value, source)
  name _ := "Constant"

end DiceTray
