import DiceTray.CommandLine.Arguments

/-!
# Invocations

What the arguments of the program ask for. A command may be left out, and rolling is meant then.
-/

namespace DiceTray.CommandLine

/-- The flags that the scan for a command knows to be followed by a value. -/
def valueFlags : List String := ["-p", "--profile", "--seed"]

/-- The arguments from the first on that is neither like a flag nor the value of one. -/
def firstOperand : List String → List String
  | [] => []
  | argument :: rest =>
    if argument ∈ valueFlags then
      match rest with
      | [] => []
      | _ :: after => firstOperand after
    else if "-".toList.isPrefixOf argument.toList then firstOperand rest
    else argument :: rest

/-- The arguments with the command for rolling put first, unless the first operand is a command or
there is none and help is asked for. -/
def withDefaultCommand (arguments : List String) : List String :=
  match firstOperand arguments with
  | [] =>
    if arguments.any fun argument => argument = "-h" || argument = "--help" then arguments
    else Command.roll.name :: arguments
  | operand :: _ =>
    if (Command.ofName? operand).isSome then arguments else Command.roll.name :: arguments

/-- What is asked for. -/
inductive Request
  | roll (expressions : List String) (average : Bool)
  | add (name : String) (expressions : List String) (comment : Option String)
  | remove (name : String)
  | list
  /-- To show the colours, after choosing some. -/
  | colors (high low : Option String)
deriving DecidableEq, Repr

/-- The command of a request. -/
def Request.command : Request → Command
  | .roll .. => .roll
  | .add .. => .add
  | .remove _ => .remove
  | .list => .list
  | .colors .. => .colors

/-- A request and how it is to be carried out. -/
structure Invocation where
  request : Request
  profile : Option String
  verbose : Bool
  noColor : Bool
  seed : Option Int
deriving DecidableEq, Repr

/-- Why nothing is carried out. -/
inductive Exit
  /-- Help on the program, or on a command, is asked for. -/
  | help (command : Option Command)
  | usage (error : UsageError)
deriving DecidableEq, Repr

/-- The text of a flag that was given last. -/
def lastText (flags : List (Flag × FlagValue)) (flag : Flag) : Option String :=
  match flags.reverse.lookup flag with
  | some (.text value) => some value
  | _ => none

/-- The integer of a flag that was given last. -/
def lastInteger (flags : List (Flag × FlagValue)) (flag : Flag) : Option Int :=
  match flags.reverse.lookup flag with
  | some (.integer value) => some value
  | _ => none

/-- Whether a flag was given. -/
def given (flags : List (Flag × FlagValue)) (flag : Flag) : Bool :=
  (flags.lookup flag).isSome

/-- The request of a command, given its operands by place and its flags. -/
def Request.ofReading (command : Command) (operands : List (List String))
    (flags : List (Flag × FlagValue)) : Request :=
  let first := operands.headD []
  match command with
  | .roll => .roll first (given flags .average)
  | .add => .add (first.headD "") (operands.drop 1).flatten (lastText flags .comment)
  | .remove => .remove (first.headD "")
  | .list => .list
  | .colors => .colors (lastText flags .high) (lastText flags .low)

/-- The exit for a halt at a level. -/
def Halt.exit (command : Option Command) (program : String) : Halt → Exit
  | .help => .help command
  | .problem cause => .usage ⟨program, cause⟩

/-- Reads arguments that contain a command. -/
def readInvocation (arguments : List String) : Except Exit Invocation := do
  let top ← (Grammar.top.read arguments).mapError (Halt.exit none Grammar.top.program)
  let usage (problem : UsageProblem) : Exit := .usage ⟨Grammar.top.program, problem⟩
  let words := top.operands.headD []
  let word := words.headD ""
  match Command.ofName? word with
  | none => throw (usage (.unknownCommand word))
  | some command =>
    let grammar := Grammar.ofCommand command
    let reading ← (grammar.read (words.drop 1)).mapError (Halt.exit (some command) grammar.program)
    let extras := top.extras ++ reading.extras
    if extras.isEmpty then
      let flags := top.flags ++ reading.flags
      return {
        request := .ofReading command reading.operands reading.flags
        profile := lastText flags .profile
        verbose := given flags .verbose
        noColor := given flags .noColor
        seed := lastInteger flags .seed }
    else throw (usage (.unrecognized extras))

/-- Reads the arguments of the program. -/
def Invocation.ofArguments (arguments : List String) : Except Exit Invocation :=
  readInvocation (withDefaultCommand arguments)

end DiceTray.CommandLine
