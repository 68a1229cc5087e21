import DiceTray.Files.Path
import DiceTray.OrderedMap
import DiceTray.Text.Quoted

/-!
# File trees

Directories and files as a value. The operations fail as those of the system do. One that makes
several directories may fail after it made some, so a changing operation returns a tree either way.

A file is written in one step, wholly or not at all, and there is always room for it. A tree has
neither links nor permissions.
-/

namespace DiceTray.Files

/-- Why a file operation fails. -/
inductive Problem
  /-- A name on the way is missing. -/
  | notFound
  /-- The name to be made is taken. -/
  | exists
  /-- A name on the way is a file. -/
  | notDirectory
  | isDirectory
  /-- A name, or the whole path, is too long. -/
  | nameTooLong
deriving DecidableEq, Repr

/-- The number under which the system reports a problem. -/
def Problem.number : Problem → Nat
  | .notFound => 2
  | .exists => 17
  | .notDirectory => 20
  | .isDirectory => 21
  | .nameTooLong => 36

/-- The wording of a problem. -/
def Problem.description : Problem → String
  | .notFound => "No such file or directory"
  | .exists => "File exists"
  | .notDirectory => "Not a directory"
  | .isDirectory => "Is a directory"
  | .nameTooLong => "File name too long"

/-- A failed file operation. -/
structure FileError where
  problem : Problem
  path : String
deriving DecidableEq, Repr

/-- The wording of a failure. -/
def FileError.message (error : FileError) : String :=
  "[Errno " ++ toString error.problem.number ++ "] " ++ error.problem.description ++ ": " ++
    Text.quoted error.path

/-- The names that lead from the root to a file or directory. -/
abbrev Location := List String

/-- What stands at a location. -/
inductive Entry
  | directory
  | file (contents : ByteArray)

/-- Entries are equal when both are directories or files with the same bytes. -/
instance : DecidableEq Entry
  | .directory, .directory => isTrue rfl
  | .directory, .file _ | .file _, .directory => isFalse nofun
  | .file ⟨left⟩, .file ⟨right⟩ =>
    decidable_of_iff (left = right)
      ⟨fun same => same ▸ rfl, fun same => by injection same with same; injection same⟩

/-- Directories and files below the root, which is a directory itself. -/
structure Tree where
  /-- What stands at the locations other than the root. -/
  entries : OrderedMap Location Entry
  /-- The location where relative paths begin. -/
  workingDirectory : Location

namespace Tree

/-- The longest name of a file or directory, in bytes. -/
def longestName : Nat := 255

/-- Paths have fewer bytes than this. -/
def longestPath : Nat := 4096

/-- What stands at a location. -/
def get? (tree : Tree) (location : Location) : Option Entry :=
  if location = [] then some .directory else tree.entries.get? location

/-- Follows names from a directory. What they lead through must be directories; at the last name
nothing needs to stand. -/
def follow (tree : Tree) (location : Location) : List String → Except Problem Location
  | [] => .ok location
  | name :: rest =>
    match tree.get? location with
    | none => .error .notFound
    | some (.file _) => .error .notDirectory
    | some .directory =>
      if name = ".." then tree.follow location.dropLast rest
      else if longestName < name.utf8ByteSize then .error .nameTooLong
      else tree.follow (location ++ [name]) rest

/-- The location that a path leads to, at which nothing needs to stand. -/
def locate (tree : Tree) (path : Path) : Except Problem Location :=
  if longestPath ≤ path.text.utf8ByteSize then .error .nameTooLong
  else tree.follow (if path.anchor = .relative then tree.workingDirectory else []) path.names

/-- A result with the path of the operation put to its problem. -/
def within {α : Type} (path : Path) (result : Except Problem α) : Except FileError α :=
  result.mapError fun problem => ⟨problem, path.text⟩

/-- Whether something stands at a path. Names that are missing on the way mean that nothing does. -/
def isPresent (tree : Tree) (path : Path) : Except FileError Bool :=
  match tree.locate path with
  | .ok location => .ok (tree.get? location).isSome
  | .error .notFound | .error .notDirectory => .ok false
  | .error problem => .error ⟨problem, path.text⟩

/-- The bytes of a file. -/
def read (tree : Tree) (path : Path) : Except FileError ByteArray :=
  within path do
    match tree.get? (← tree.locate path) with
    | some (.file contents) => return contents
    | some .directory => throw .isDirectory
    | none => throw .notFound

/-- The tree with an entry put at a location. -/
def put (tree : Tree) (location : Location) (entry : Entry) : Tree :=
  { tree with entries := tree.entries.insert location entry }

/-- Putting an entry changes what stands at its location alone, unless that is the root. -/
theorem get?_put (tree : Tree) (location other : Location) (entry : Entry)
    (below : location ≠ []) :
    (tree.put location entry).get? other =
      if other = location then some entry else tree.get? other := by
  unfold get? put
  by_cases root : other = []
  · subst root
    simp [Ne.symm below]
  · simp [root, OrderedMap.get?_insert]

/-- What a changing operation comes to, and the tree it leaves. -/
abbrev Change := Except FileError Unit × Tree

/-- The change to the tree of a result, or none for a problem. -/
def settle (tree : Tree) (path : Path) : Except Problem Tree → Change
  | .ok changed => (.ok (), changed)
  | .error problem => (.error ⟨problem, path.text⟩, tree)

/-- The tree with the bytes of a file changed; a missing file is created in its directory. -/
def updated (tree : Tree) (path : Path) (change : ByteArray → ByteArray) :
    Except Problem Tree := do
  let location ← tree.locate path
  match tree.get? location with
  | some (.file contents) => return tree.put location (.file (change contents))
  | some .directory => throw .isDirectory
  | none => return tree.put location (.file (change .empty))

/-- Replaces the bytes of a file. -/
def write (tree : Tree) (path : Path) (contents : ByteArray) : Change :=
  tree.settle path (tree.updated path fun _ => contents)

/-- Adds bytes at the end of a file. -/
def append (tree : Tree) (path : Path) (contents : ByteArray) : Change :=
  tree.settle path (tree.updated path (· ++ contents))

/-- Makes a directory within an existing one. -/
def makeDirectory (tree : Tree) (path : Path) : Except Problem Tree := do
  let location ← tree.locate path
  if (tree.get? location).isSome then throw .exists else return tree.put location .directory

/-- Whether a path leads to a directory. -/
def isDirectory (tree : Tree) (path : Path) : Bool :=
  match tree.locate path with
  | .ok location => tree.get? location = some .directory
  | .error _ => false

/-- Makes a directory; one that exists already is as good. -/
def ensureDirectory (tree : Tree) (path : Path) : Change :=
  match tree.makeDirectory path with
  | .ok changed => (.ok (), changed)
  | .error problem =>
    (if tree.isDirectory path then .ok () else .error ⟨problem, path.text⟩, tree)

/-- Makes a directory with the first `count` names of a path, and before it the directories that
hold it as far as they are missing. Directories that were made before a failure stay. -/
def makeDirectoriesUpTo (tree : Tree) (path : Path) : Nat → Change
  | 0 => tree.ensureDirectory { path with names := [] }
  | count + 1 =>
    let here := { path with names := path.names.take (count + 1) }
    match tree.makeDirectory here with
    | .error .notFound =>
      match tree.makeDirectoriesUpTo path count with
      | (.error error, tree) => (.error error, tree)
      | (.ok (), tree) => tree.ensureDirectory here
    | _ => tree.ensureDirectory here

/-- Makes a directory and the directories that hold it, as far as they are missing. -/
def makeDirectories (tree : Tree) (path : Path) : Change :=
  tree.makeDirectoriesUpTo path path.names.length

end Tree

end DiceTray.Files
