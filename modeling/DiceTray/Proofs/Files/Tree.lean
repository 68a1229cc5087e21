import DiceTray.Files.Tree
import DiceTray.Proofs.OrderedMap
import DiceTray.Proofs.Sequence

/-!
# Following, writing and reading

A path that leads somewhere leads there in every tree that keeps the directories. Writing a file
keeps them, so the file is then read back, and writing the same bytes again changes nothing.
-/

namespace DiceTray

/-- Where there is no separator, the rest belongs to the current piece. -/
theorem Text.splitFrom_of_not_mem {separator : Char} {cs : List Char} (unparted : separator ∉ cs)
    (piece : List Char) (done : List (List Char)) :
    splitFrom separator piece done cs = done.reverse ++ [piece.reverse ++ cs] := by
  induction cs generalizing piece with
  | nil => rw [splitFrom, List.reverse_cons, List.append_nil]
  | cons c rest inductionHypothesis =>
    rw [List.mem_cons, not_or] at unparted
    rw [splitFrom, if_neg (Ne.symm unparted.1), inductionHypothesis unparted.2, List.reverse_cons,
      List.append_assoc]
    rfl

/-- A name within a directory of the working directory. -/
theorem Files.Path.ofString_within {name : String} (unparted : '/' ∉ name.toList)
    (present : name ≠ "") (other : name ≠ ".") :
    Path.ofString ("a/" ++ name) = ⟨.relative, ["a", name]⟩ := by
  have characters : ("a/" ++ name).toList = 'a' :: '/' :: name.toList := String.toList_append
  have cut : Text.splitChars '/' ('a' :: '/' :: name.toList) = [['a'], name.toList] :=
    Text.splitFrom_of_not_mem unparted [] [['a']]
  have relative : Anchor.ofChars ('a' :: '/' :: name.toList) = .relative := rfl
  have kept : (!name.isEmpty && name ≠ ".") = true := by simp [present, other]
  rw [ofString, characters, cut, relative, List.map_cons, List.map_cons, List.map_nil,
    String.ofList_toList, List.filter_cons_of_pos (by decide),
    List.filter_cons_of_pos (p := fun name : String => !name.isEmpty && name ≠ ".") kept]
  rfl

/-- The directory that holds a name within a directory is that directory. -/
theorem Files.Path.parent_child (home : Path) (name : String) :
    (home.child name).parent = home := by
  rw [parent, child]
  simp

end DiceTray

namespace DiceTray.Files.Tree

variable {tree other : Tree} {path : Path} {location : Location}

/-- What is a directory in one tree is one in another, in which relative paths begin at the same
place. -/
structure Keeps (tree other : Tree) : Prop where
  directories : ∀ location, tree.get? location = some .directory →
    other.get? location = some .directory
  workingDirectory : other.workingDirectory = tree.workingDirectory

theorem Keeps.refl (tree : Tree) : tree.Keeps tree := ⟨fun _ there => there, rfl⟩

theorem Keeps.trans {third : Tree} (first : tree.Keeps other) (second : other.Keeps third) :
    tree.Keeps third :=
  ⟨fun location there => second.directories location (first.directories location there),
    second.workingDirectory.trans first.workingDirectory⟩

/-- Names that lead somewhere lead there still. -/
theorem Keeps.follow (keeps : tree.Keeps other) {names : List String} {base : Location}
    (led : tree.follow base names = .ok location) : other.follow base names = .ok location := by
  induction names generalizing base with
  | nil => exact led
  | cons name rest inductionHypothesis =>
    rw [Tree.follow] at led ⊢
    split at led
    · cases led
    · cases led
    · next there =>
      rw [keeps.directories base there]
      split at led
      · next up =>
        simp only [up, if_true]
        exact inductionHypothesis led
      · next down =>
        simp only [down, if_false]
        split at led
        · cases led
        · next short =>
          rw [if_neg short]
          exact inductionHypothesis led

theorem Keeps.locate (keeps : tree.Keeps other) (located : tree.locate path = .ok location) :
    other.locate path = .ok location := by
  rw [Tree.locate] at located ⊢
  split at located
  · cases located
  · next short =>
    rw [if_neg short, keeps.workingDirectory]
    exact keeps.follow located

theorem isDirectory_iff : tree.isDirectory path = true ↔
    ∃ location, tree.locate path = .ok location ∧ tree.get? location = some .directory := by
  rw [isDirectory]
  split
  · next location located => simp [located]
  · next located => simp [located]

theorem Keeps.isDirectory (keeps : tree.Keeps other) (there : tree.isDirectory path = true) :
    other.isDirectory path = true := by
  obtain ⟨location, located, found⟩ := isDirectory_iff.1 there
  exact isDirectory_iff.2 ⟨location, keeps.locate located, keeps.directories location found⟩

theorem get?_root (tree : Tree) : tree.get? [] = some .directory := if_pos rfl

/-- Where no directory stands is not the root. -/
theorem ne_root_of_get?_ne (free : tree.get? location ≠ some .directory) : location ≠ [] := by
  rintro rfl
  exact free tree.get?_root

theorem get?_put_self (entry : Entry) (free : tree.get? location ≠ some .directory) :
    (tree.put location entry).get? location = some entry := by
  rw [get?_put _ _ _ _ (ne_root_of_get?_ne free), if_pos rfl]

/-- Directories are kept when an entry is put where none of them stands. -/
theorem keeps_put (entry : Entry) (free : tree.get? location ≠ some .directory) :
    tree.Keeps (tree.put location entry) where
  directories := by
    intro elsewhere there
    have apart : elsewhere ≠ location := by
      rintro rfl
      exact free there
    rw [get?_put _ _ _ _ (ne_root_of_get?_ne free), if_neg apart, there]
  workingDirectory := rfl

/-- Putting what stands at a location there again changes nothing. -/
theorem put_of_get?_eq {entry : Entry} (below : location ≠ [])
    (found : tree.get? location = some entry) : tree.put location entry = tree := by
  rw [get?, if_neg below] at found
  rw [put, OrderedMap.insert_of_get?_eq found]

/-- Of two entries that are put at one location the second one counts. -/
theorem put_put (tree : Tree) (location : Location) (entry other : Entry) :
    (tree.put location entry).put location other = tree.put location other := by
  rw [put, put, put, OrderedMap.insert_insert]

/-- The bytes of the file at a location, or none. -/
def bytesAt (tree : Tree) (location : Location) : ByteArray :=
  match tree.get? location with
  | some (.file contents) => contents
  | _ => .empty

/-- A file can be changed where its path leads, unless a directory stands there. -/
theorem updated_eq_ok_iff {change : ByteArray → ByteArray} {changed : Tree} :
    tree.updated path change = .ok changed ↔
      ∃ location, tree.locate path = .ok location ∧ tree.get? location ≠ some .directory ∧
        changed = tree.put location (.file (change (tree.bytesAt location))) := by
  rw [updated, bind_eq_ok_iff]
  refine exists_congr fun location => and_congr_right fun _ => ?_
  rw [bytesAt]
  split
  · next contents found => simp [found, pure, Except.pure, eq_comm]
  · next found => simp [found, throw, throwThe, MonadExceptOf.throw]
  · next found => simp [found, pure, Except.pure, eq_comm]

/-- A change to a file fails and leaves the tree, or puts bytes where the path leads. -/
theorem settle_updated (tree : Tree) (path : Path) (change : ByteArray → ByteArray) :
    (∃ error, tree.settle path (tree.updated path change) = (.error error, tree)) ∨
      ∃ location, tree.locate path = .ok location ∧ tree.get? location ≠ some .directory ∧
        tree.settle path (tree.updated path change) =
          (.ok (), tree.put location (.file (change (tree.bytesAt location)))) := by
  cases result : tree.updated path change with
  | error problem => exact .inl ⟨_, rfl⟩
  | ok changed =>
    obtain ⟨location, located, free, rfl⟩ := updated_eq_ok_iff.1 result
    exact .inr ⟨location, located, free, rfl⟩

theorem write_of_locate (contents : ByteArray) (located : tree.locate path = .ok location)
    (free : tree.get? location ≠ some .directory) :
    tree.write path contents = (.ok (), tree.put location (.file contents)) := by
  have wrote : tree.updated path (fun _ => contents) = .ok (tree.put location (.file contents)) :=
    updated_eq_ok_iff.2 ⟨location, located, free, rfl⟩
  rw [write, wrote]
  rfl

theorem isPresent_of_locate (located : tree.locate path = .ok location) :
    tree.isPresent path = .ok (tree.get? location).isSome := by
  rw [isPresent, located]

theorem read_of_locate {contents : ByteArray} (located : tree.locate path = .ok location)
    (found : tree.get? location = some (.file contents)) : tree.read path = .ok contents := by
  rw [read, within, located, ok_bind, found]
  rfl

end DiceTray.Files.Tree
