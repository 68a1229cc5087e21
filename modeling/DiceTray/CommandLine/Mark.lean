import DiceTray.CommandLine.Flag
import DiceTray.Text.Digit
import DiceTray.Text.Quoted

/-!
# Marking arguments

Before any argument is used, each is marked as an operand, as a flag or as something that looks like
a flag but is none. Long flags may be abbreviated, a value may be joined to its flag, and after a
double dash everything is an operand.
-/

namespace DiceTray.CommandLine

/-- Why arguments cannot be used. -/
inductive UsageProblem
  /-- Operands are missing. -/
  | required (names : List String)
  | ambiguous (argument : String) (candidates : List String)
  | expectedValue (flag : Flag)
  /-- A value is joined to a flag that takes none. -/
  | ignoredValue (flag : Flag) (value : String)
  | notAnInteger (flag : Flag) (value : String)
  | unknownCommand (word : String)
  | unrecognized (arguments : List String)
deriving DecidableEq, Repr

/-- The wording of a problem. -/
def UsageProblem.message : UsageProblem → String
  | .required names => "the following arguments are required: " ++ ", ".intercalate names
  | .ambiguous argument candidates =>
    "ambiguous option: " ++ argument ++ " could match " ++ ", ".intercalate candidates
  | .expectedValue flag => "argument " ++ flag.title ++ ": expected one argument"
  | .ignoredValue flag value =>
    "argument " ++ flag.title ++ ": ignored explicit argument " ++ Text.quoted value
  | .notAnInteger flag value =>
    "argument " ++ flag.title ++ ": invalid int value: " ++ Text.quoted value
  | .unknownCommand word =>
    "argument command: invalid choice: " ++ Text.quoted word ++ " (choose from " ++
      ", ".intercalate (Command.all.map fun command => Text.quoted command.name) ++ ")"
  | .unrecognized arguments => "unrecognized arguments: " ++ " ".intercalate arguments

/-- A problem at a level of the command line. -/
structure UsageError where
  /-- The name under which it is reported. -/
  program : String
  problem : UsageProblem
deriving DecidableEq, Repr

/-- The line that reports an error. -/
def UsageError.message (error : UsageError) : String :=
  error.program ++ ": error: " ++ error.problem.message

/-- A value joined to a flag. -/
structure Joined where
  /-- An equals sign stands between flag and value. -/
  afterEquals : Bool
  value : String
deriving DecidableEq, Repr

/-- A flag as it stands in an argument. -/
structure FlagUse where
  flag : Flag
  /-- The spelling that was meant. -/
  spelling : String
  joined : Option Joined
deriving DecidableEq, Repr

/-- What an argument is. -/
inductive Mark
  /-- An operand, or the value of a flag. -/
  | operand
  /-- The double dash after which everything is an operand. -/
  | separator
  | flag (use : FlagUse)
  /-- Something like a flag that no flag is spelled like. -/
  | unknown
deriving DecidableEq, Repr

/-- Whether an argument begins with a flag or something like it. -/
def Mark.isFlag : Mark → Bool
  | .flag _ | .unknown => true
  | .operand | .separator => false

/-- The spellings of flags, each with its flag. -/
def spellings (flags : List Flag) : List (String × Flag) :=
  flags.flatMap fun flag => flag.names.map fun name => (name, flag)

/-- Splits a text at its first equals sign. -/
def splitEquals (text : String) : Option (String × String) :=
  match text.toList.span (· ≠ '=') with
  | (_, []) => none
  | (name, _ :: value) => some (String.ofList name, String.ofList value)

/-- The flags that an argument with two leading dashes abbreviates. -/
def longCandidates (flags : List Flag) (argument : String) : List FlagUse :=
  let (name, joined) : String × Option Joined :=
    match splitEquals argument with
    | some (name, value) => (name, some ⟨true, value⟩)
    | none => (argument, none)
  (spellings flags).filterMap fun (spelling, flag) =>
    if name.toList.isPrefixOf spelling.toList then some ⟨flag, spelling, joined⟩ else none

/-- The flags that an argument with a single leading dash begins with. -/
def shortCandidates (flags : List Flag) (argument : String) : List FlagUse :=
  (spellings flags).filterMap fun (spelling, flag) =>
    if spelling.toList = argument.toList.take 2 then
      some ⟨flag, spelling, some ⟨false, String.ofList (argument.toList.drop 2)⟩⟩
    else if argument.toList.isPrefixOf spelling.toList then some ⟨flag, spelling, none⟩
    else none

/-- The flags that an argument can be meant for. -/
def candidates (flags : List Flag) (argument : String) : List FlagUse :=
  if "--".toList.isPrefixOf argument.toList then longCandidates flags argument
  else shortCandidates flags argument

/-- A minus sign with digits, and possibly a point among them, is an operand; a line end may
follow. -/
def isNegativeNumber (argument : String) : Bool :=
  match argument.toList with
  | '-' :: body =>
    let body := if body.getLast? = some '\n' then body.dropLast else body
    match body.span Text.isDigit with
    | (whole, []) => !whole.isEmpty
    | (_, '.' :: places) => !places.isEmpty && places.all Text.isDigit
    | _ => false
  | _ => false

/-- The mark of an argument. -/
def markArgument (flags : List Flag) (argument : String) : Except UsageProblem Mark :=
  if !"-".toList.isPrefixOf argument.toList then .ok .operand
  else
    match (spellings flags).lookup argument with
    | some flag => .ok (.flag ⟨flag, argument, none⟩)
    | none =>
      if argument = "-" then .ok .operand
      else
        let exact := (splitEquals argument).bind fun (name, value) =>
          ((spellings flags).lookup name).map fun flag =>
            (⟨flag, name, some ⟨true, value⟩⟩ : FlagUse)
        match exact with
        | some use => .ok (.flag use)
        | none =>
          match candidates flags argument with
          | [use] => .ok (.flag use)
          | [] =>
            if isNegativeNumber argument || argument.toList.contains ' ' then .ok .operand
            else .ok .unknown
          | uses => .error (.ambiguous argument (uses.map FlagUse.spelling))

/-- The marks of all arguments. -/
def markArguments (flags : List Flag) :
    List String → Except UsageProblem (List (String × Mark))
  | [] => .ok []
  | argument :: rest =>
    if argument = "--" then
      .ok ((argument, .separator) :: rest.map fun operand => (operand, .operand))
    else do
      let mark ← markArgument flags argument
      return (argument, mark) :: (← markArguments flags rest)

end DiceTray.CommandLine
