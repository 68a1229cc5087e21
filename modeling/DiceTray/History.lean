import DiceTray.Fault
import DiceTray.Journal
import DiceTray.Source.Recorder

/-!
# The history of draws

A log file with one line per die size and run: when the dice were rolled, by which version of the
program, the number of sides, and the values drawn. Lines are only ever added.
-/

namespace DiceTray

/-- A minute of the calendar, in universal time. -/
structure Moment where
  year : Nat
  /-- The month, from one. -/
  month : Nat
  day : Nat
  hour : Nat
  minute : Nat
deriving DecidableEq, Repr

/-- A number with two digits. -/
def twoDigits (n : Nat) : String :=
  if n < 10 then "0" ++ n.repr else n.repr

/-- The text of a moment. The year is not filled with zeros. -/
def Moment.stamp (moment : Moment) : String :=
  moment.year.repr ++ "-" ++ twoDigits moment.month ++ "-" ++ twoDigits moment.day ++ " " ++
    twoDigits moment.hour ++ ":" ++ twoDigits moment.minute

/-- The values drawn, by the number of sides. -/
abbrev Draws := List (Int × List Int)

namespace History

/-- The name under which the history logs. -/
def logger : String := "dice_notation.history"

/-- The version of the program, which every line names. -/
def programVersion : String := "0.3.0"

/-- The line of the values drawn for a number of sides. -/
def entryLine (stamp program : String) (sides : Int) (values : List Int) :
    Except NumberError String := do
  let sides ← writeInteger sides
  let values ← values.mapM writeInteger
  return stamp ++ "|" ++ program ++ "|" ++ sides ++ ":" ++ ",".intercalate values

/-- The draws that become lines: those with values, by increasing number of sides. -/
def ordered (draws : Draws) : Draws :=
  (draws.filter fun draw => !draw.2.isEmpty).mergeSort fun left right => left.1 ≤ right.1

/-- The lines of draws. -/
def lines (draws : Draws) (stamp program : String) : Except NumberError (List String) :=
  (ordered draws).mapM fun draw => entryLine stamp program draw.1 draw.2

/-- The text that lines add to the file. -/
def block (lines : List String) : String := String.join (lines.map (· ++ "\n"))

/-- Adds lines to a file, whose directory is made if it is missing, and tells their number. -/
def appendLines (tree : Files.Tree) (path : Files.Path) (lines : List String) :
    Logged Fault Nat × Files.Tree :=
  match tree.makeDirectories path.parent with
  | (.error error, tree) => (.failed (.file error), tree)
  | (.ok (), tree) =>
    match tree.append path (block lines).toUTF8 with
    | (.error error, tree) => (.failed (.file error), tree)
    | (.ok (), tree) =>
      (⟨[⟨logger, .debug, "Appended " ++ toString lines.length ++ " history lines to " ++
          path.text⟩],
        .ok lines.length⟩, tree)

/-- Adds the lines of draws to a file, in the name of a version of the program, and tells their
number. Without lines nothing is touched. -/
def appendAs (program : String) (tree : Files.Tree) (path : Files.Path) (draws : Draws)
    (moment : Moment) : Logged Fault Nat × Files.Tree :=
  match lines draws moment.stamp program with
  | .error error => (.failed (.number error), tree)
  | .ok [] => (.done 0, tree)
  | .ok (first :: rest) => appendLines tree path (first :: rest)

/-- Adds the lines of draws to a file in the name of this version. -/
def append (tree : Files.Tree) (path : Files.Path) (draws : Draws) (moment : Moment) :
    Logged Fault Nat × Files.Tree :=
  appendAs programVersion tree path draws moment

end History

end DiceTray
