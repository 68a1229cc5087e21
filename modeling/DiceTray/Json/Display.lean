import DiceTray.Json.Value

/-!
# JSON values in messages

How a value is shown in a message: strings quoted as everywhere in messages, and the three constants
with capital letters.
-/

namespace DiceTray.Json

mutual

/-- A value as messages show it. -/
def Value.display : Value → String
  | .null => "None"
  | .boolean value => if value then "True" else "False"
  | .integer value => decimal value
  | .float value => value.shortestText
  | .text value => Text.quoted value
  | .list items => "[" ++ displayItems items ++ "]"
  | .object members => "\x7b" ++ displayMembers members ++ "\x7d"

/-- Items with commas between them. -/
def displayItems : List Value → String
  | [] => ""
  | [item] => item.display
  | item :: next :: rest => item.display ++ ", " ++ displayItems (next :: rest)

/-- Members with commas between them. -/
def displayMembers : List (String × Value) → String
  | [] => ""
  | [(name, value)] => Text.quoted name ++ ": " ++ value.display
  | (name, value) :: next :: rest =>
    Text.quoted name ++ ": " ++ value.display ++ ", " ++ displayMembers (next :: rest)

end

end DiceTray.Json
