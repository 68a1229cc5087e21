import DiceTray.CommandLine.Flag
import DiceTray.Text.Layout

/-!
# Help

What the program says about itself, its commands and its flags.
-/

namespace DiceTray.CommandLine

/-- What a command is for. -/
def Command.purpose : Command → String
  | .roll => "roll expressions or aliases (default)"
  | .add => "store expressions under an alias"
  | .remove => "remove an alias"
  | .list => "list stored aliases"
  | .colors => "show or set highlight colors"

/-- What a flag is for. -/
def Flag.purpose : Flag → String
  | .help => "show this help message and exit"
  | .profile => "use the alias file of a named profile"
  | .verbose => "debug logging"
  | .noColor => "disable highlighting"
  | .seed => "seed for reproducible rolls"
  | .average => "print average values instead of rolling"
  | .comment => "a comment shown when the alias is rolled"
  | .high => "color for dice that rolled their maximum face"
  | .low => "color for dice that rolled a one"

/-- The width of the first column of help. -/
def helpColumn : Nat := 18

/-- A line of help with a name and its explanation. -/
def helpLine (entry : String × String) : String :=
  "  " ++ Text.padRight helpColumn entry.1 ++ "  " ++ entry.2

/-- The operands of a level, in order. -/
def Grammar.operandsText (grammar : Grammar) : String :=
  String.join (grammar.slots.map fun slot =>
    match slot with
    | .one name => " " ++ name
    | .many name => " " ++ name ++ " [" ++ name ++ " ...]"
    | .command => " command ...")

/-- The help on a level. -/
def Grammar.helpLines (grammar : Grammar) : List String :=
  ["usage: " ++ grammar.program ++ " [options]" ++ grammar.operandsText, "", "options:"] ++
    grammar.flags.map fun flag => helpLine (flag.title, flag.purpose)

/-- The help on the program, or on one of its commands. -/
def helpLines : Option Command → List String
  | some command => (Grammar.ofCommand command).helpLines
  | none =>
    Grammar.top.helpLines ++ ["", "commands:"] ++
      Command.all.map fun command => helpLine (command.name, command.purpose)

end DiceTray.CommandLine
