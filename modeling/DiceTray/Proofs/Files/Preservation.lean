import DiceTray.Proofs.Files.Directories

/-!
# What changes leave alone

Making directories leaves every file as it is, also when it fails half way. A change to a file that
fails leaves everything as it is, and one that succeeds puts bytes at one location.
-/

namespace DiceTray.Files.Tree

variable {tree other : Tree} {path : Path} {location : Location}

/-- Two trees hold the same files with the same bytes. Their directories may differ. -/
def SameFiles (tree other : Tree) : Prop :=
  ∀ location contents,
    other.get? location = some (.file contents) ↔ tree.get? location = some (.file contents)

theorem SameFiles.refl (tree : Tree) : tree.SameFiles tree := fun _ _ => Iff.rfl

theorem SameFiles.trans {third : Tree} (first : tree.SameFiles other)
    (second : other.SameFiles third) : tree.SameFiles third :=
  fun location contents => (second location contents).trans (first location contents)

theorem bytesAt_of_file {contents : ByteArray}
    (found : tree.get? location = some (.file contents)) : tree.bytesAt location = contents := by
  rw [bytesAt, found]

theorem bytesAt_of_no_file (missing : ∀ contents, tree.get? location ≠ some (.file contents)) :
    tree.bytesAt location = .empty := by
  rw [bytesAt]
  split
  · next contents found => exact absurd found (missing contents)
  · rfl

theorem SameFiles.bytesAt_eq (same : tree.SameFiles other) (location : Location) :
    other.bytesAt location = tree.bytesAt location := by
  by_cases file : ∃ contents, tree.get? location = some (.file contents)
  · obtain ⟨contents, found⟩ := file
    rw [bytesAt_of_file found, bytesAt_of_file ((same location contents).2 found)]
  · have missing : ∀ contents, tree.get? location ≠ some (.file contents) := not_exists.1 file
    rw [bytesAt_of_no_file missing,
      bytesAt_of_no_file fun contents found => missing contents ((same location contents).1 found)]

theorem sameFiles_put_directory (absent : tree.get? location = none) :
    tree.SameFiles (tree.put location .directory) := by
  intro elsewhere contents
  have free : tree.get? location ≠ some .directory := by simp [absent]
  rw [get?_put _ _ _ _ (ne_root_of_get?_ne free)]
  by_cases here : elsewhere = location
  · subst here
    simp [absent]
  · rw [if_neg here]

theorem sameFiles_ensureDirectory (tree : Tree) (path : Path) :
    tree.SameFiles (tree.ensureDirectory path).2 := by
  rw [ensureDirectory]
  cases made : tree.makeDirectory path with
  | error problem => exact .refl tree
  | ok changed =>
    obtain ⟨location, -, absent, rfl⟩ := makeDirectory_eq_ok_iff.1 made
    exact sameFiles_put_directory absent

theorem sameFiles_makeDirectoriesUpTo (tree : Tree) (path : Path) (count : Nat) :
    tree.SameFiles (tree.makeDirectoriesUpTo path count).2 := by
  induction count with
  | zero => exact sameFiles_ensureDirectory tree _
  | succ count inductionHypothesis =>
    rw [makeDirectoriesUpTo]
    split
    · -- the directories that hold it come first, and stay when one of them cannot be made
      split
      · next made =>
        rw [made] at inductionHypothesis
        exact inductionHypothesis
      · next made =>
        rw [made] at inductionHypothesis
        exact inductionHypothesis.trans (sameFiles_ensureDirectory _ _)
    · exact sameFiles_ensureDirectory tree _

/-- Making directories leaves every file as it is, whether it succeeds or fails. -/
theorem sameFiles_makeDirectories (tree : Tree) (path : Path) :
    tree.SameFiles (tree.makeDirectories path).2 :=
  sameFiles_makeDirectoriesUpTo tree path path.names.length

/-- In a directory that is there a name leads to the same location, or fails in the same way, in
every tree that keeps the directories. -/
theorem Keeps.locate_child {home : Path} (keeps : tree.Keeps other)
    (there : tree.isDirectory home = true) (name : String) :
    other.locate (home.child name) = tree.locate (home.child name) := by
  obtain ⟨directory, located, found⟩ := isDirectory_iff.1 there
  rw [Tree.locate] at located
  split at located
  · cases located
  · have led : tree.follow (tree.start home) home.names = .ok directory := located
    have begun : other.start home = tree.start home := by
      rw [start, start, keeps.workingDirectory]
    have within {place : Tree} (leads : place.follow (place.start home) home.names = .ok directory)
        (held : place.get? directory = some .directory) :
        place.locate (home.child name) =
          if longestPath ≤ (home.child name).text.utf8ByteSize then .error .nameTooLong
          else if name = ".." then .ok directory.dropLast
          else if longestName < name.utf8ByteSize then .error .nameTooLong
          else .ok (directory ++ [name]) := by
      have last : place.follow (place.start home) (home.names ++ [name]) =
          if name = ".." then .ok directory.dropLast
          else if longestName < name.utf8ByteSize then .error .nameTooLong
          else .ok (directory ++ [name]) := by
        rw [follow_append, leads, ok_bind, Tree.follow, held]
        rfl
      exact congrArg (ite _ _) last
    have leads : other.follow (other.start home) home.names = .ok directory := by
      rw [begun]
      exact keeps.follow led
    rw [within leads (keeps.directories directory found), within led found]

section Placing

variable {change : ByteArray → ByteArray} {after : Tree}

/-- The directory of a path was made where it was missing, and then the bytes of the file that the
path leads to were changed. -/
def Placed (tree : Tree) (path : Path) (change : ByteArray → ByteArray) (after : Tree) : Prop :=
  ∃ made location, tree.makeDirectories path.parent = (.ok (), made) ∧
    made.locate path = .ok location ∧ made.get? location ≠ some .directory ∧
    after = made.put location (.file (change (made.bytesAt location)))

/-- Changing a file after making its directory: either fails and leaves at most directories, or the
bytes are placed. -/
theorem settle_updated_cases {made : Tree}
    (ready : tree.makeDirectories path.parent = (.ok (), made)) (change : ByteArray → ByteArray) :
    (∃ error, made.settle path (made.updated path change) =
        (.error error, (tree.makeDirectories path.parent).2)) ∨
      ∃ after, made.settle path (made.updated path change) = (.ok (), after) ∧
        tree.Placed path change after := by
  rcases made.settle_updated path change with ⟨error, failed⟩ | ⟨location, located, free, done⟩
  · exact .inl ⟨error, by rw [failed, ready]⟩
  · exact .inr ⟨_, done, made, location, ready, located, free, rfl⟩

/-- Where the bytes are found that were placed, and that every other file is as before. -/
theorem Placed.exists_file (placed : tree.Placed path change after) :
    ∃ location, after.locate path = .ok location ∧
      after.get? location = some (.file (change (tree.bytesAt location))) ∧
      ∀ elsewhere contents, elsewhere ≠ location →
        (after.get? elsewhere = some (.file contents) ↔
          tree.get? elsewhere = some (.file contents)) := by
  obtain ⟨made, location, ready, located, free, rfl⟩ := placed
  have same := tree.sameFiles_makeDirectories path.parent
  rw [ready] at same
  refine ⟨location, (keeps_put _ free).locate located, ?_, fun elsewhere contents apart => ?_⟩
  · rw [get?_put_self _ free, same.bytesAt_eq]
  · rw [get?_put _ _ _ _ (ne_root_of_get?_ne free), if_neg apart]
    exact same elsewhere contents

/-- Bytes are added to the file that a path leads to, which is empty at first if it is missing, and
every other file is as before. -/
def Extended (tree : Tree) (path : Path) (more : ByteArray) (after : Tree) : Prop :=
  ∃ location, after.locate path = .ok location ∧
    after.get? location = some (.file (tree.bytesAt location ++ more)) ∧
    ∀ elsewhere contents, elsewhere ≠ location →
      (after.get? elsewhere = some (.file contents) ↔ tree.get? elsewhere = some (.file contents))

theorem Placed.extended {more : ByteArray} (placed : tree.Placed path (· ++ more) after) :
    tree.Extended path more after := placed.exists_file

theorem Placed.isDirectory (placed : tree.Placed path change after) :
    after.isDirectory path.parent = true := by
  obtain ⟨made, location, ready, -, free, rfl⟩ := placed
  exact (keeps_put _ free).isDirectory (isDirectory_of_makeDirectories ready).2

/-- Where bytes were placed, bytes can be placed again. -/
theorem Placed.writable (placed : tree.Placed path change after) : after.Writable path := by
  have ready := makeDirectories_of_isDirectory placed.isDirectory
  obtain ⟨made, location, -, located, free, rfl⟩ := placed
  have found := get?_put_self (.file (change (made.bytesAt location))) free
  exact ⟨_, location, ready, (keeps_put _ free).locate located, by simp [found]⟩

/-- Placing bytes twice is placing them once, in the same file. -/
theorem Placed.trans {again : ByteArray → ByteArray} {last : Tree}
    (placed : tree.Placed path change after) (further : after.Placed path again last) :
    tree.Placed path (fun contents => again (change contents)) last := by
  have there := makeDirectories_of_isDirectory placed.isDirectory
  obtain ⟨made, location, ready, located, free, rfl⟩ := placed
  obtain ⟨same, elsewhere, ready', located', -, rfl⟩ := further
  rw [there] at ready'
  cases ready'
  rw [(keeps_put _ free).locate located] at located'
  cases located'
  refine ⟨made, location, ready, located, free, ?_⟩
  rw [bytesAt_of_file (get?_put_self _ free), put_put]

end Placing

section Lossless

/-- Every file is there still, and holds what it held, at most with more bytes behind that. -/
def Lossless (tree other : Tree) : Prop :=
  ∀ location contents, tree.get? location = some (.file contents) →
    ∃ more, other.get? location = some (.file (contents ++ more))

theorem SameFiles.lossless (same : tree.SameFiles other) : tree.Lossless other :=
  fun location contents found =>
    ⟨.empty, by rw [ByteArray.append_empty]; exact (same location contents).2 found⟩

theorem Extended.lossless {more : ByteArray} (extended : tree.Extended path more other) :
    tree.Lossless other := by
  intro location contents found
  obtain ⟨grown, -, there, others⟩ := extended
  by_cases here : location = grown
  · subst here
    exact ⟨more, by rw [there, bytesAt_of_file found]⟩
  · exact ⟨.empty, by rw [ByteArray.append_empty]; exact (others location contents here).2 found⟩

theorem Lossless.trans {third : Tree} (first : tree.Lossless other)
    (second : other.Lossless third) : tree.Lossless third := by
  intro location contents found
  obtain ⟨more, there⟩ := first location contents found
  obtain ⟨further, last⟩ := second location _ there
  exact ⟨more ++ further, by rw [last, ByteArray.append_assoc]⟩

end Lossless

end DiceTray.Files.Tree
