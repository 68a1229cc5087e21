import DiceTray.Proofs.Alias.RoundTrip
import DiceTray.Proofs.Files.Preservation

/-!
# What saving leaves alone

A store that cannot be saved leaves every file as it is, and where the path of its file is steady it
leaves the directories too. What is loaded from a file of the home directory stays the same whatever
is done to the other files there.
-/

namespace DiceTray.AliasStore

open Files

variable {tree changed after : Tree} {path home : Path} {name other : String}

/-- From a path that is too long nothing is ever loaded. -/
theorem load_of_long (long : Tree.longestPath ≤ path.text.utf8ByteSize) (tree : Tree)
    (strict : Bool) :
    (load tree path strict).outcome = .error (.file ⟨.nameTooLong, path.text⟩) := by
  have problem : tree.isPresent path = .error ⟨.nameTooLong, path.text⟩ := by
    rw [Tree.isPresent, Tree.locate, if_pos long]
  rw [outcome_load, problem]
  rfl

/-- A path from which a store is loaded is not too long. -/
theorem short_of_load {strict : Bool} {store : AliasStore}
    (loaded : (load tree path strict).outcome = .ok store) :
    ¬ Tree.longestPath ≤ path.text.utf8ByteSize := fun long => by
  cases (load_of_long long tree strict).symm.trans loaded

/-- Where the path leads nowhere the store is empty. -/
theorem load_of_lost (lost : tree.locate path = .error .notFound) (strict : Bool) :
    (load tree path strict).outcome = .ok empty := by
  have absent : tree.isPresent path = .ok false := by rw [Tree.isPresent, lost]
  rw [outcome_load, absent]
  rfl

/-- What is loaded depends on where the path leads and what stands there alone. -/
theorem load_congr (same : after.locate path = tree.locate path)
    (found : ∀ location, tree.locate path = .ok location →
      after.get? location = tree.get? location) (strict : Bool) :
    (load after path strict).outcome = (load tree path strict).outcome := by
  rw [outcome_load, outcome_load, Tree.isPresent, Tree.isPresent, Tree.read, Tree.read, same]
  cases located : tree.locate path with
  | error problem => cases problem <;> simp only [error_bind]
  | ok location => simp only [ok_bind, found location located]

/-- Saving fails and leaves at most directories, or places the bytes of the store. -/
theorem save_cases (store : AliasStore) (tree : Tree) (path : Path) :
    (∃ fault, (store.save tree path).1.outcome = .error fault ∧
      (store.save tree path).2 = (tree.makeDirectories path.parent).2) ∨
    ((store.save tree path).1.outcome = .ok { store with legacy := false } ∧
      tree.Placed path (fun _ => store.fileBytes) (store.save tree path).2) := by
  rw [save]
  cases directories : tree.makeDirectories path.parent with
  | mk outcome made =>
    cases outcome with
    | error error => exact .inl ⟨_, rfl, rfl⟩
    | ok done =>
      rcases Tree.settle_updated_cases directories fun _ => store.fileBytes with
        ⟨error, failed⟩ | ⟨after, wrote, placed⟩
      · rw [← Tree.write, directories] at failed
        dsimp only
        rw [failed]
        exact .inl ⟨_, rfl, rfl⟩
      · rw [← Tree.write] at wrote
        dsimp only
        rw [wrote]
        exact .inr ⟨rfl, placed⟩

/-- A store that cannot be saved leaves every file as it is. -/
theorem sameFiles_save_of_error {store : AliasStore} {fault : Fault}
    (failed : (store.save tree path).1.outcome = .error fault) :
    tree.SameFiles (store.save tree path).2 := by
  rcases store.save_cases tree path with ⟨_, -, left⟩ | ⟨done, -⟩
  · rw [left]
    exact tree.sameFiles_makeDirectories path.parent
  · cases done.symm.trans failed

/-- Where the file was loaded before and its path is steady, saving that fails changes nothing. -/
theorem tree_save_of_steady {store loaded : AliasStore} {fault : Fault} (sound : tree.Sound)
    (steady : tree.Steady (home.child name))
    (before : (load tree (home.child name) true).outcome = .ok loaded)
    (failed : (store.save tree (home.child name)).1.outcome = .error fault) :
    (store.save tree (home.child name)).2 = tree := by
  rcases store.save_cases tree (home.child name) with ⟨_, -, left⟩ | ⟨done, -⟩
  · rw [left, Path.parent_child]
    rcases Tree.makeDirectories_of_steady sound steady (short_of_load before) with
      ⟨error, refused⟩ | there | ⟨made, location, ready, -, -, located, absent⟩
    · rw [refused]
    · rw [Tree.makeDirectories_of_isDirectory there]
    · -- where nothing stands the file can be written, so saving does not fail
      have writable : tree.Writable (home.child name) :=
        ⟨made, location, by rw [Path.parent_child, ready], located, by simp [absent]⟩
      cases (save_of_writable store writable).1.symm.trans failed
  · cases done.symm.trans failed

section Elsewhere

/-- Making directories does not decide what is loaded from the file with a name in a home directory:
no file has so long a path, or the home directory is there, or the path is steady. -/
def Settled (tree : Tree) (home : Path) (name : String) : Prop :=
  Tree.longestPath ≤ (home.child name).text.utf8ByteSize ∨ tree.isDirectory home = true ∨
    tree.Sound ∧ tree.Steady (home.child name)

/-- From the file with a name in a home directory the same is loaded in a tree as in an earlier one,
strictly or not and successfully or not, and that is settled. -/
structure LoadsAlike (tree after : Tree) (home : Path) (name : String) : Prop where
  outcome : ∀ strict, (load after (home.child name) strict).outcome =
    (load tree (home.child name) strict).outcome
  settled : Settled after home name

theorem LoadsAlike.refl (settled : Settled tree home name) : LoadsAlike tree tree home name :=
  ⟨fun _ => rfl, settled⟩

theorem Settled.makeDirectories (settled : Settled tree home name) :
    LoadsAlike tree (tree.makeDirectories home).2 home name := by
  rcases settled with long | there | ⟨sound, steady⟩
  · exact ⟨fun strict => by rw [load_of_long long, load_of_long long], .inl long⟩
  · rw [Tree.makeDirectories_of_isDirectory there]
    exact .refl (.inr (.inl there))
  · by_cases long : Tree.longestPath ≤ (home.child name).text.utf8ByteSize
    · exact ⟨fun strict => by rw [load_of_long long, load_of_long long], .inl long⟩
    · rcases Tree.makeDirectories_of_steady sound steady long with
        ⟨error, refused⟩ | there | ⟨made, location, ready, there, lost, located, absent⟩
      · rw [refused]
        exact .refl (.inr (.inr ⟨sound, steady⟩))
      · rw [Tree.makeDirectories_of_isDirectory there]
        exact .refl (.inr (.inl there))
      · -- nothing was there to be loaded, and nothing is
        rw [ready]
        exact ⟨fun strict => by rw [load_of_absent located absent, load_of_lost lost],
          .inr (.inl there)⟩

/-- In a home directory that is there, what is loaded from one file does not depend on another. -/
theorem load_put_elsewhere {location : Location} {bytes : ByteArray} (apart : name ≠ other)
    (down : name ≠ "..") (down' : other ≠ "..") (there : tree.isDirectory home = true)
    (located : tree.locate (home.child other) = .ok location)
    (free : tree.get? location ≠ some .directory) (strict : Bool) :
    (load (tree.put location (.file bytes)) (home.child name) strict).outcome =
      (load tree (home.child name) strict).outcome := by
  have keeps := Tree.keeps_put (.file bytes) free
  refine load_congr (keeps.locate_child there name) (fun here found => ?_) strict
  obtain ⟨directory, led, rfl⟩ := Tree.exists_directory_of_locate down found
  obtain ⟨directory', led', rfl⟩ := Tree.exists_directory_of_locate down' located
  cases led.symm.trans led'
  have elsewhere : directory ++ [name] ≠ directory ++ [other] := fun equal =>
    apart (List.cons.inj (List.append_cancel_left equal)).1
  rw [Tree.get?_put _ _ _ _ (Tree.ne_root_of_get?_ne free), if_neg elsewhere]

/-- Placing bytes in another file of the home directory leaves what is loaded. -/
theorem Settled.placed {change : ByteArray → ByteArray} (settled : Settled tree home name)
    (apart : name ≠ other) (down : name ≠ "..") (down' : other ≠ "..")
    (placed : tree.Placed (home.child other) change after) : LoadsAlike tree after home name := by
  have there := placed.isDirectory
  rw [Path.parent_child] at there
  obtain ⟨made, location, ready, located, free, rfl⟩ := placed
  rw [Path.parent_child] at ready
  have alike := settled.makeDirectories
  rw [ready] at alike
  have held := (Tree.isDirectory_of_makeDirectories ready).2
  exact ⟨fun strict => (load_put_elsewhere apart down down' held located free strict).trans
    (alike.outcome strict), .inr (.inl there)⟩

end Elsewhere

end DiceTray.AliasStore
