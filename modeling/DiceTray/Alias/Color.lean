import DiceTray.Alias.ColorNames
import DiceTray.Alias.Error
import DiceTray.Fault
import DiceTray.Highlight
import DiceTray.Json.Display
import DiceTray.Text.Case

/-!
# Colours

Which texts give a colour: the default, a name, three hexadecimal bytes, a number of the terminal's
palette, or three decimal components. Case and white space around do not count.
-/

namespace DiceTray

/-- Digits of hexadecimal numbers in lower case. -/
def isLowerHex (c : Char) : Bool :=
  ('0' ≤ c && c ≤ '9') || ('a' ≤ c && c ≤ 'f')

/-- What stands between an opening word and a closing parenthesis at the end. -/
def enclosed? (opening : List Char) (cs : List Char) : Option (List Char) :=
  if opening.isPrefixOf cs && cs.getLast? = some ')' && opening.length < cs.length then
    some ((cs.drop opening.length).dropLast)
  else none

/-- The six digits after a hash sign. -/
def isHexColor : List Char → Bool
  | '#' :: digits => digits.length = 6 && digits.all isLowerHex
  | _ => false

/-- The number of a palette colour is written with one to three digits and is at most 255. -/
def isPaletteColor (cs : List Char) : Bool :=
  match enclosed? "color(".toList cs with
  | some digits =>
    !digits.isEmpty && digits.length ≤ 3 && digits.all Char.isDigit &&
      Json.digitsValue digits ≤ 255
  | none => false

/-- Characters that may stand between the parentheses of components. -/
def isComponentChar (c : Char) : Bool :=
  Text.isDigit c || Text.isBlank c || c = ','

/-- Components are three integers of at most 255; a component that is no integer is an error. -/
def isComponentColor (cs : List Char) : Except NumberError Bool :=
  match enclosed? "rgb(".toList cs with
  | some inner =>
    if inner.isEmpty || !inner.all isComponentChar then .ok false
    else
      match Text.splitChars ',' inner with
      | [red, green, blue] => do
        let red ← readInteger (String.ofList red)
        let green ← readInteger (String.ofList green)
        let blue ← readInteger (String.ofList blue)
        return decide (red ≤ 255) && decide (green ≤ 255) && decide (blue ≤ 255)
      | _ => .ok false
  | none => .ok false

/-- Whether a text gives a colour. -/
def isColor (text : String) : Except NumberError Bool :=
  let cs := Text.trimChars (Text.lowercaseChars text.toList)
  if cs = "default".toList || colorNames.contains (String.ofList cs) then .ok true
  else if isHexColor cs || isPaletteColor cs then .ok true
  else isComponentColor cs

/-- The role and the text of a colour that may be stored: the role exists and the value is a text
that gives a colour. -/
def checkColor (role : String) (value : Json.Value) : Except Fault (Role × String) :=
  match Role.ofName? role with
  | none => .error (.aliases (.unknownRole role))
  | some found =>
    match value.text? with
    | none => .error (.aliases (.colorNotText role value.display))
    | some color =>
      match isColor color with
      | .error error => .error (.number error)
      | .ok false => .error (.aliases (.unknownColor role color))
      | .ok true => .ok (found, color)

/-- The colour of a role that has none of its own. -/
def Role.defaultColor : Role → String
  | .high => "bright_green"
  | .low => "bright_red"

/-- The colours of the roles before any is chosen. -/
def defaultColors : OrderedMap Role String :=
  .ofList ([Role.high, Role.low].map fun role => (role, role.defaultColor))

end DiceTray
