/-!
# Commands and flags

The commands of the program, the flags that each understands, and the operands that each takes.
-/

namespace DiceTray.CommandLine

/-- The commands. -/
inductive Command
  | roll
  | add
  | remove
  | list
  | colors
deriving DecidableEq, Repr

/-- The word that names a command. -/
def Command.name : Command → String
  | .roll => "roll"
  | .add => "add"
  | .remove => "rm"
  | .list => "list"
  | .colors => "colors"

/-- All commands, in the order in which they are offered. -/
def Command.all : List Command := [.roll, .add, .remove, .list, .colors]

/-- The command that a word names. -/
def Command.ofName? (name : String) : Option Command :=
  Command.all.find? fun command => command.name = name

/-- The flags. -/
inductive Flag
  | help
  | profile
  | verbose
  | noColor
  | seed
  | average
  | comment
  | high
  | low
deriving DecidableEq, Repr

/-- The spellings of a flag. -/
def Flag.names : Flag → List String
  | .help => ["-h", "--help"]
  | .profile => ["-p", "--profile"]
  | .verbose => ["-v", "--verbose"]
  | .noColor => ["--no-color"]
  | .seed => ["--seed"]
  | .average => ["-a", "--average"]
  | .comment => ["-c", "--comment"]
  | .high => ["--high"]
  | .low => ["--low"]

/-- What a flag is called in messages. -/
def Flag.title (flag : Flag) : String := "/".intercalate flag.names

/-- Whether a flag needs a value. -/
def Flag.takesValue : Flag → Bool
  | .profile | .seed | .comment | .high | .low => true
  | .help | .verbose | .noColor | .average => false

/-- The flags that may stand before the command as well as after it. -/
def commonFlags : List Flag := [.help, .profile, .verbose, .noColor, .seed]

/-- The flags of a command. -/
def Command.flags : Command → List Flag
  | .roll => commonFlags ++ [.average]
  | .add => commonFlags ++ [.comment]
  | .remove | .list => commonFlags
  | .colors => commonFlags ++ [.high, .low]

/-- A place for operands. -/
inductive Slot
  | one (name : String)
  | many (name : String)
  /-- Takes the command and everything after it. -/
  | command
deriving DecidableEq, Repr

/-- What a slot is called in messages. -/
def Slot.name : Slot → String
  | .one name | .many name => name
  | .command => "command"

/-- The operands of a command. -/
def Command.slots : Command → List Slot
  | .roll => [.many "expressions"]
  | .add => [.one "alias", .many "expressions"]
  | .remove => [.one "alias"]
  | .list | .colors => []

/-- What a level of the command line understands: the program before the command, or a command. -/
structure Grammar where
  /-- The name under which errors are reported. -/
  program : String
  flags : List Flag
  slots : List Slot

/-- The level before the command. -/
def Grammar.top : Grammar := ⟨"roll", commonFlags, [.command]⟩

/-- The level of a command. -/
def Grammar.ofCommand (command : Command) : Grammar :=
  ⟨"roll " ++ command.name, command.flags, command.slots⟩

end DiceTray.CommandLine
