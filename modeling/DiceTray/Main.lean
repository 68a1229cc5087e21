import DiceTray.CommandLine.Help
import DiceTray.Session
import Std.Time.DateTime

/-!
# The program

Reads the arguments, the environment, the clock and the files that a run may touch, and carries out
what the run decides.
-/

namespace DiceTray.Main

/-- The name by which the system knows a location. -/
def nameOf (location : Files.Location) : String := "/" ++ "/".intercalate location

/-- What stands at a location. -/
def entryAt (location : Files.Location) : IO (Option Files.Entry) := do
  try
    return some (.file (← IO.FS.readBinFile (nameOf location)))
  catch
    | .noFileOrDirectory .. => return none
    | .inappropriateType .. => return some .directory
    | error => throw error

/-- Adds what stands on the way along names from a location, up to the first that is missing or a
file. -/
def survey (tree : Files.Tree) (location : Files.Location) : List String → IO Files.Tree
  | [] => return tree
  | name :: rest => do
    if name = ".." then survey tree location.dropLast rest
    else
      let location := location ++ [name]
      match ← entryAt location with
      | none => return tree
      | some entry =>
        let tree := tree.put location entry
        if entry = .directory then survey tree location rest else return tree

/-- The files that lie along some paths. -/
def readTree (paths : List Files.Path) : IO Files.Tree := do
  let workingDirectory := (Files.Path.ofString (← IO.currentDir).toString).names
  let start ← survey ⟨.empty, workingDirectory⟩ [] workingDirectory
  paths.foldlM
    (fun tree path =>
      survey tree (if path.anchor = .relative then workingDirectory else []) path.names)
    start

/-- Makes the directories and writes the files in which two trees differ. -/
def writeTree (before after : Files.Tree) : IO Unit :=
  after.entries.entries.forM fun (location, entry) => do
    if before.get? location ≠ some entry then
      match entry with
      | .directory => IO.FS.createDir (nameOf location)
      | .file contents => IO.FS.writeBinFile (nameOf location) contents

/-- The variables that the settings depend on. -/
def variableNames : List String :=
  ["DICE_NOTATION_HOME", "DICE_NOTATION_LOG_LEVEL", "DICE_NOTATION_HISTORY"]

/-- A user and the home directory, from a line of the system's list of users. -/
def homeOfLine? (line : String) : Option (String × String) :=
  match Text.splitChars ':' line.toList with
  | name :: _ :: _ :: _ :: _ :: home :: _ => some (String.ofList name, String.ofList home)
  | _ => none

/-- The home directories of the users that the system lists. -/
def readHomes : IO (List (String × String)) := do
  try
    return (← IO.FS.lines "/etc/passwd").toList.filterMap homeOfLine?
  catch _ => return []

/-- The environment of this run. -/
def readEnvironment : IO Environment := do
  let bindings ← variableNames.filterMapM fun name => do
    return (← IO.getEnv name).map fun value => (name, value)
  return ⟨bindings, (← IO.getEnv "HOME").getD "/", ← readHomes⟩

/-- The present minute in universal time. -/
def readClock : IO Moment := do
  let now := Std.Time.PlainDateTime.ofWallTime ((← Std.Time.Timestamp.now).toWallTime .zero)
  return {
    year := now.date.year.toInt.toNat
    month := now.date.month.val.toNat
    day := now.date.day.val.toNat
    hour := now.time.hour.val.toNat
    minute := now.time.minute.val.toNat }

/-- A source that no one can foresee. -/
def readEntropy : IO Entropy := do
  let bytes ← IO.getRandomBytes 64
  return ⟨.ofSeed (bytes.toList.foldl (fun seed byte => 256 * seed + byte.toNat) 0 : Nat)⟩

end DiceTray.Main

open DiceTray in
/-- The program. -/
def main (arguments : List String) : IO UInt32 := do
  let environment ← Main.readEnvironment
  let tree ← Main.readTree (Session.paths arguments environment)
  let outcome :=
    Session.run arguments environment (← Main.readClock) tree (← Main.readEntropy)
  Main.writeTree tree outcome.tree
  IO.print outcome.output
  outcome.diagnostics.forM fun line => IO.eprintln line
  match outcome.ending with
  | .help command => (CommandLine.helpLines command).forM fun line => IO.println line
  | .escaped fault => IO.eprintln fault.message
  | .done | .misused _ | .failed _ => pure ()
  return UInt32.ofNat (outcome.ending.code?.getD 1)
