import DiceTray.Alias.Error
import DiceTray.Expression.Error
import DiceTray.Files.Tree
import DiceTray.Source.Basic

/-!
# Faults

Everything that can keep a command from being carried out. Most faults are reported to the user;
those that concern the size of numbers are not expected and end the program.
-/

namespace DiceTray

/-- Why an expression is not rolled although it is well formed. -/
inductive LimitError
  | manySides (text : String)
  | manyDice (text : String)
deriving DecidableEq, Repr

/-- The most sides of a die on the command line. -/
def mostSides : Nat := 1000000000

/-- The most dice that an expression rolls on the command line. -/
def mostDice : Nat := 100000

/-- The wording of a limit error. -/
def LimitError.message : LimitError → String
  | .manySides text =>
    "[TOO_LARGE] " ++ Text.quoted text ++ ": at most " ++ toString mostSides ++ " sides per die."
  | .manyDice text =>
    "[TOO_LARGE] " ++ Text.quoted text ++ ": at most " ++ toString mostDice ++
      " dice per expression."

/-- What is wrong with the settings. -/
inductive SettingsError
  | unknownLevel (name : String)
  /-- The home directory is that of a user who is not known. -/
  | unknownUser
deriving DecidableEq, Repr

/-- The wording of a settings error. -/
def SettingsError.message : SettingsError → String
  | .unknownLevel name =>
    "[CONFIG] Unknown log level " ++ Text.quoted name ++ " in DICE_NOTATION_LOG_LEVEL."
  | .unknownUser => "Could not determine home directory."

/-- A fault of any kind. -/
inductive Fault
  | parse (error : ParseError)
  /-- A number is too long or too large. -/
  | number (error : NumberError)
  | draw (error : DrawError)
  | limit (error : LimitError)
  /-- An alias, a colour or an alias file is wrong. -/
  | aliases (error : AliasError)
  | settings (error : SettingsError)
  | file (error : Files.FileError)
deriving DecidableEq

namespace Fault

/-- The wording of a fault. -/
def message : Fault → String
  | .parse error => error.message
  | .number error => error.message
  | .draw error => error.message
  | .limit error => error.message
  | .aliases error => error.message
  | .settings error => error.message
  | .file error => error.message

/-- The fault of an expression that cannot be read. -/
def ofExpression : ExpressionError → Fault
  | .malformed error => .parse error
  | .number error => .number error

/-- Faults that the program's own rules name: they are about its input and not about its numbers. -/
def isOwn : Fault → Bool
  | .parse _ | .limit _ | .aliases _ | .settings (.unknownLevel _) => true
  | .draw .exhausted | .draw (.outOfRange ..) => true
  | .number _ | .draw _ | .settings .unknownUser | .file _ => false

/-- Faults that a command reports; all others end the program. -/
def isReported : Fault → Bool
  | .file _ => true
  | fault => fault.isOwn

end Fault

end DiceTray
