import DiceTray.Text.Layout

/-!
# Path names

Path names in the text form of the system: names between slashes, where empty names and single
dots do not count and double dots are kept. Two leading slashes are told apart from one.
-/

namespace DiceTray.Files

/-- Where a path begins. -/
inductive Anchor
  /-- At the working directory. -/
  | relative
  | root
  /-- At the root written with two slashes. -/
  | doubleRoot
deriving DecidableEq, Repr

/-- What stands before the first name. -/
def Anchor.text : Anchor → String
  | .relative => ""
  | .root => "/"
  | .doubleRoot => "//"

/-- A path name. -/
structure Path where
  anchor : Anchor
  /-- The names on the way, of which none is empty or a single dot. -/
  names : List String
deriving DecidableEq, Repr

/-- The anchor of a text by its leading slashes: exactly two are a double root. -/
def Anchor.ofChars : List Char → Anchor
  | '/' :: '/' :: '/' :: _ => .root
  | '/' :: '/' :: _ => .doubleRoot
  | '/' :: _ => .root
  | _ => .relative

/-- The path that a text names. -/
def Path.ofString (text : String) : Path where
  anchor := .ofChars text.toList
  names := ((Text.splitChars '/' text.toList).map String.ofList).filter fun name =>
    !name.isEmpty && name ≠ "."

/-- The text of a path; the working directory is a single dot. -/
def Path.text (path : Path) : String :=
  if path.anchor = .relative ∧ path.names = [] then "."
  else path.anchor.text ++ "/".intercalate path.names

/-- The path of a name within a directory. -/
def Path.child (path : Path) (name : String) : Path :=
  { path with names := path.names ++ [name] }

/-- The directory that holds a path; a path without names is its own parent. -/
def Path.parent (path : Path) : Path :=
  { path with names := path.names.dropLast }

/-- The names of a path begin with a home sign, which may be followed by a user's name. -/
def Path.homeSign? (path : Path) : Option String :=
  match path.anchor, path.names with
  | .relative, name :: _ => if name.startsWith "~" then some name else none
  | _, _ => none

end DiceTray.Files
