import DiceTray.Text.Cell

/-!
# Laying out text

Padding to a width, splitting at a character, and the form in which a text reaches the terminal:
control characters dropped, tabs filled up to columns of eight, and every line ended.
-/

namespace DiceTray.Text

/-- A text with blanks before it up to a width. -/
def padLeft (width : Nat) (text : String) : String :=
  String.ofList (List.replicate (width - text.length) ' ') ++ text

/-- A text with blanks after it up to a width. -/
def padRight (width : Nat) (text : String) : String :=
  text ++ String.ofList (List.replicate (width - text.length) ' ')

/-- The pieces between separators, where `piece` is what was read of the current one and `done`
holds those before it, both newest first. -/
def splitFrom (separator : Char) (piece : List Char) (done : List (List Char)) :
    List Char → List (List Char)
  | [] => (piece.reverse :: done).reverse
  | c :: rest =>
    if c = separator then splitFrom separator [] (piece.reverse :: done) rest
    else splitFrom separator (c :: piece) done rest

/-- The pieces between the occurrences of a separator; there is always at least one. -/
def splitChars (separator : Char) (cs : List Char) : List (List Char) :=
  splitFrom separator [] [] cs

/-- The control characters that are dropped from displayed text: bell, backspace, vertical tab, form
feed and carriage return. -/
def isDropped (c : Char) : Bool :=
  c = '\x07' || c = '\x08' || c = '\x0b' || c = '\x0c' || c = '\r'

/-- A text without the control characters that are not displayed. -/
def displayable (text : String) : String :=
  String.ofList (text.toList.filter fun c => !isDropped c)

/-- The distance of tab stops. -/
def tabStop : Nat := 8

/-- The pieces of a line with blanks for the tabs between them, from a column on: a tab is one
blank, and more up to the next tab stop. -/
def fillTabs (column : Nat) : List (List Char) → List Char
  | [] => []
  | [last] => last
  | piece :: rest =>
    let reached := column + cells (piece ++ [' '])
    let fill := (tabStop - reached % tabStop) % tabStop
    piece ++ ' ' :: (List.replicate fill ' ' ++ fillTabs (reached + fill) rest)

/-- A line as the terminal shows it. -/
def expandTabs (line : List Char) : List Char :=
  fillTabs 0 (splitChars '\t' line)

/-- What is written for a text: each of its lines with tabs filled up and a line end. -/
def printed (text : String) : String :=
  String.ofList
    ((splitChars '\n' (displayable text).toList).flatMap fun line => expandTabs line ++ ['\n'])

end DiceTray.Text
