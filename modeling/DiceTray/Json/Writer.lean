import DiceTray.Json.Value

/-!
# Writing JSON

The indented form of a document: two blanks per level, one item or member a line, and nothing
escaped but the quotation mark, the backslash and the control characters.
-/

namespace DiceTray.Json

/-- A character inside a written string. -/
def escapeChar (c : Char) : List Char :=
  if c = '"' then ['\\', '"']
  else if c = '\\' then ['\\', '\\']
  else if c = '\n' then ['\\', 'n']
  else if c = '\r' then ['\\', 'r']
  else if c = '\t' then ['\\', 't']
  else if c = '\x08' then ['\\', 'b']
  else if c = '\x0c' then ['\\', 'f']
  else if c.toNat < 0x20 then '\\' :: 'u' :: Text.hexadecimal 4 c.toNat
  else [c]

/-- A string between quotation marks. -/
def writeString (text : String) : List Char :=
  '"' :: (text.toList.flatMap escapeChar ++ ['"'])

/-- A line break and the blanks of an indentation. -/
def lineBreak (depth : Nat) : List Char :=
  '\n' :: List.replicate (2 * depth) ' '

mutual

/-- A value whose lines are indented to a depth. -/
def writeValue (depth : Nat) : Value → List Char
  | .null => ['n', 'u', 'l', 'l']
  | .boolean true => ['t', 'r', 'u', 'e']
  | .boolean false => ['f', 'a', 'l', 's', 'e']
  | .integer value => (decimal value).toList
  | .float value => value.shortestText.toList
  | .text value => writeString value
  | .list items =>
    if items.isEmpty then ['[', ']']
    else '[' :: (lineBreak (depth + 1) ++ writeItems (depth + 1) items ++ lineBreak depth ++ [']'])
  | .object members =>
    if members.isEmpty then ['{', '}']
    else
      '{' :: (lineBreak (depth + 1) ++ writeMembers (depth + 1) members ++ lineBreak depth ++ ['}'])

/-- Items with a comma and a line break between them. -/
def writeItems (depth : Nat) : List Value → List Char
  | [] => []
  | [item] => writeValue depth item
  | item :: next :: rest =>
    writeValue depth item ++ ',' :: (lineBreak depth ++ writeItems depth (next :: rest))

/-- Members with a comma and a line break between them. -/
def writeMembers (depth : Nat) : List (String × Value) → List Char
  | [] => []
  | [(name, value)] => writeString name ++ ':' :: ' ' :: writeValue depth value
  | (name, value) :: next :: rest =>
    writeString name ++ ':' :: ' ' :: (writeValue depth value ++
      ',' :: (lineBreak depth ++ writeMembers depth (next :: rest)))

end

/-- The indented text of a document. -/
def Value.write (value : Value) : String :=
  String.ofList (writeValue 0 value)

end DiceTray.Json
