import DiceTray.Proofs.Alias.Saving
import DiceTray.Proofs.History.Appending
import DiceTray.Session

/-!
# What stands in the alias file

The alias file is a map from names to aliases and from roles to colours. Saving a store replaces the
map by that of the store or leaves it as it was, and other files in the same directory have no part
in it.
-/

namespace DiceTray

open Files CommandLine

/-- What can be found in a store, in whatever order it was bound. -/
@[ext] structure Contents where
  entry? : String → Option Alias
  color? : Role → Option String

namespace Contents

/-- Puts an alias under a name, or takes the one there away. -/
def assign (contents : Contents) (name : String) (entry : Option Alias) : Contents :=
  { contents with entry? := fun other => if other = name then entry else contents.entry? other }

/-- Gives a role a colour, if one is chosen. -/
def choose (contents : Contents) (role : Role) : Option String → Contents
  | some color =>
    { contents with
      color? := fun other => if other = role then some color else contents.color? other }
  | none => contents

/-- The contents after a request was carried out. -/
def after (contents : Contents) : Request → Contents
  | .add name expressions comment =>
    contents.assign (Text.trim name) (some ⟨expressions.map Text.trim, comment⟩)
  | .remove name => contents.assign name none
  | .colors high low => (contents.choose .high high).choose .low low
  | .list | .roll _ _ => contents

end Contents

namespace AliasStore

/-- What can be found in a store. -/
def contents (store : AliasStore) : Contents := ⟨store.get?, store.colors.get?⟩

variable {store changed : AliasStore}

theorem contents_reloaded (store : AliasStore) : store.reloaded.contents = store.contents :=
  Contents.ext (funext store.get?_reloaded) rfl

theorem contents_add {name : String} {expressions : List String} {comment : Option String}
    {added : Alias} (done : (store.add name expressions comment).outcome = .ok (changed, added)) :
    changed.contents = store.contents.after (.add name expressions comment) := by
  obtain ⟨-, rfl, -, rfl⟩ := add_eq_ok_iff.1 done
  apply Contents.ext
  · funext other
    simp only [contents, get?, Contents.after, Contents.assign, OrderedMap.get?_insert]
  · rfl

theorem contents_remove {name : String} {removed : Alias}
    (done : store.remove name = .ok (changed, removed)) :
    changed.contents = store.contents.after (.remove name) := by
  obtain ⟨-, rfl⟩ := remove_eq_ok_iff.1 done
  apply Contents.ext
  · funext other
    exact OrderedMap.get?_erase store.aliases name other
  · rfl

theorem contents_chooseColor {role : Role} {color : Option String}
    (done : Session.chooseColor role color store = .ok changed) :
    changed.contents = store.contents.choose role color := by
  cases color with
  | none =>
    cases done
    rfl
  | some color =>
    obtain ⟨found, given, checked, rfl⟩ := setColor_eq_ok_iff.1 done
    obtain ⟨known, text, -⟩ := checkColor_eq_ok_iff.1 checked
    cases (Role.ofName?_name role).symm.trans known
    cases text
    have known (other : Role) := OrderedMap.get?_insert store.colors role other color
    exact Contents.ext rfl (funext known)

theorem Valid.chooseColor {role : Role} {color : Option String} (valid : store.Valid)
    (done : Session.chooseColor role color store = .ok changed) : changed.Valid := by
  cases color with
  | none =>
    cases done
    exact valid
  | some color => exact valid.setColor done

end AliasStore

namespace AliasStore

/-- The alias file with a name in a home directory stands for some contents: it is loaded strictly
as a store with these contents, and its directory is there, or can be made without another file
coming to light. -/
structure Stands (tree : Tree) (home : Path) (name : String) (contents : Contents) : Prop where
  /-- The file is loaded as the contents. -/
  loads : ∃ store, (load tree (home.child name) true).outcome = .ok store ∧
    store.contents = contents
  /-- The directory is there, or the path is steady. -/
  reached : tree.isDirectory home = true ∨ tree.Sound ∧ tree.Steady (home.child name)

variable {tree after : Tree} {home : Path} {name : String} {contents : Contents}

/-- Where the same is loaded the file stands for the same contents. -/
theorem Stands.of_loadsAlike (stands : Stands tree home name contents)
    (alike : LoadsAlike tree after home name) : Stands after home name contents := by
  obtain ⟨store, loaded, same⟩ := stands.loads
  have reloaded := (alike.outcome true).trans loaded
  exact ⟨⟨store, reloaded, same⟩, alike.settled.resolve_left (short_of_load reloaded)⟩

/-- Saving a valid store fails and leaves the contents, or succeeds and replaces them by those of
the store. -/
theorem Stands.save {store : AliasStore} (stands : Stands tree home name contents)
    (valid : store.Valid) :
    (∃ fault, (store.save tree (home.child name)).1.outcome = .error fault ∧
      Stands (store.save tree (home.child name)).2 home name contents) ∨
    ∃ saved, (store.save tree (home.child name)).1.outcome = .ok saved ∧
      Stands (store.save tree (home.child name)).2 home name store.contents := by
  have settled : Settled tree home name := .inr stands.reached
  rcases store.save_cases tree (home.child name) with ⟨fault, failed, left⟩ | ⟨done, placed⟩
  · rw [Path.parent_child] at left
    rw [left]
    exact .inl ⟨fault, failed, stands.of_loadsAlike settled.makeDirectories⟩
  · have there := placed.isDirectory
    obtain ⟨location, located, found, -⟩ := placed.exists_file
    have holds : Holds (store.save tree (home.child name)).2 (home.child name) store :=
      ⟨there, location, located, found⟩
    rw [Path.parent_child] at there
    exact .inr ⟨_, done, ⟨store.reloaded, holds.load valid true, store.contents_reloaded⟩,
      .inl there⟩

/-- Adding lines to another file in the home directory, whether it fails or succeeds, leaves the
contents as they are. -/
theorem Stands.appendLines {other : String} (stands : Stands tree home name contents)
    (apart : name ≠ other) (down : name ≠ "..") (down' : other ≠ "..") (lines : List String) :
    Stands (History.appendLines tree (home.child other) lines).2 home name contents := by
  have settled : Settled tree home name := .inr stands.reached
  rcases History.appendLines_cases tree (home.child other) lines with ⟨-, -, left⟩ | ⟨-, placed⟩
  · rw [left, Path.parent_child]
    exact stands.of_loadsAlike settled.makeDirectories
  · exact stands.of_loadsAlike (settled.placed apart down down' placed)

end AliasStore

end DiceTray
