import DiceTray.Json.Reader
import DiceTray.Text.Utf8

/-!
# Alias errors

What is wrong with an alias, a colour or an alias file, with the wording of each.
-/

namespace DiceTray

/-- Why an alias file cannot be used. -/
inductive FileDefect
  | encoding (error : Text.EncodingError)
  | document (reason : Json.Reason) (line column position : Nat)
  | notObject
  | sectionNotObject (name : String)
deriving DecidableEq

/-- The wording of a defect. -/
def FileDefect.message : FileDefect → String
  | .encoding error => error.message
  | .document reason line column position =>
    (Json.ReadError.malformed reason line column position).message
  | .notObject => "expected a JSON object."
  | .sectionNotObject name => Text.quoted name ++ " must be an object."

/-- What is wrong with an alias, a colour or an alias file. -/
inductive AliasError
  | unknownRole (role : String)
  /-- A colour is given by something else than a text, shown as in messages. -/
  | colorNotText (role shown : String)
  | unknownColor (role color : String)
  | unreadable (path : String) (defect : FileDefect)
  | emptyName
  | noExpressions
  | unknownAlias (name : String)
deriving DecidableEq

/-- The wording of an error after its code. -/
def AliasError.detail : AliasError → String
  | .unknownRole role => "Unknown color role " ++ Text.quoted role ++ ". Use one of: high, low."
  | .colorNotText role shown =>
    "Color for " ++ Text.quoted role ++ " must be a string, got " ++ shown ++ "."
  | .unknownColor role color =>
    "Unknown color " ++ Text.quoted color ++ " for " ++ Text.quoted role ++ "."
  | .unreadable path defect => "Could not read " ++ path ++ ": " ++ defect.message
  | .emptyName => "Alias name must not be empty."
  | .noExpressions => "An alias needs at least one expression. Example: 'add attack 1d20+5'."
  | .unknownAlias name => "No alias named " ++ Text.quoted name ++ "."

/-- The wording of an error. -/
def AliasError.message (error : AliasError) : String :=
  "[ALIAS_STORE] " ++ error.detail

end DiceTray
