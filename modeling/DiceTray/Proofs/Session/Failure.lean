import DiceTray.Proofs.Expression.RoundTrip
import DiceTray.Proofs.Session.Effects

/-!
# Runs that fail

A run that does not end well leaves every file as it was. It leaves the directories too where the
path of the alias file is steady; elsewhere directories can be left that were made for a file which
then could not be written.
-/

namespace DiceTray.Session

open Activity CommandLine Files

variable {σ : Type} {environment : Environment} {settings : Settings} {request : Request}
  {tree after : Tree}

/-- A request that could not be carried out left every file as it was. -/
theorem Effect.sameFiles (effect : Effect settings request tree false after) :
    tree.SameFiles after := by
  cases effect with
  | untouched => exact .refl tree
  | unsaved before failure => exact AliasStore.sameFiles_save_of_error failure

/-- Along a steady path it left the directories as well. -/
theorem Effect.eq_of_steady (effect : Effect settings request tree false after)
    (sound : tree.Sound) (steady : tree.Steady settings.aliasPath) : after = tree := by
  cases effect with
  | untouched => rfl
  | unsaved before failure => exact AliasStore.tree_save_of_steady sound steady before failure

variable [RandomSource σ]

/-- A run that does not end well, because of its arguments, because help is asked for, or because of
a fault, leaves every file with the bytes it had, and no file appears or is lost. When the path of
the alias file is steady, so that below a missing directory there are only names that directories
may have, no directory appears either. -/
theorem failed_run_changes_nothing (launch : Launch σ) (environment : Environment) (tree : Tree)
    (failed : (launch.outcome environment tree).ending ≠ .done) :
    tree.SameFiles (launch.outcome environment tree).tree ∧
      (tree.Sound →
        (∀ settings, launch.Reaches environment settings → tree.Steady settings.aliasPath) →
        (launch.outcome environment tree).tree = tree) := by
  rcases launch.effect_outcome environment tree with
    ⟨-, same⟩ | ⟨invocation, settings, done, read, configured, ended, effect⟩
  · rw [same]
    exact ⟨.refl tree, fun _ _ => rfl⟩
  · have undone : done = false := Bool.eq_false_iff.2 fun well => failed (ended.2 well)
    subst undone
    exact ⟨effect.sameFiles, fun sound steady =>
      effect.eq_of_steady sound (steady settings ⟨invocation, read, configured⟩)⟩

/-- A run that chooses two colours, of which the second is none. -/
def halfColored : Launch Constant :=
  ⟨["colors", "--high", "red", "--low", "ref"], ⟨2024, 1, 1, 0, 0⟩, ⟨3⟩⟩

/-- It fails where not even the home directory is there, and does not make it. -/
theorem failed_run_changes_nothing_of_colors :
    (halfColored.outcome ⟨[], "/home/dice", []⟩ ⟨.empty, []⟩).ending ≠ .done ∧
      (halfColored.outcome ⟨[], "/home/dice", []⟩ ⟨.empty, []⟩).tree = ⟨.empty, []⟩ := by
  have failed : (halfColored.outcome ⟨[], "/home/dice", []⟩ ⟨.empty, []⟩).ending ≠ .done := by
    decide +kernel
  refine ⟨failed,
    (failed_run_changes_nothing _ _ _ failed).2 (Tree.sound_of_entries (by decide)) ?_⟩
  rintro settings ⟨invocation, read, configured⟩
  have given : Invocation.ofArguments halfColored.arguments =
      .ok ⟨.colors (some "red") (some "ref"), none, false, false, none⟩ := by decide +kernel
  cases given.symm.trans read
  have found : Settings.load none ⟨[], "/home/dice", []⟩ =
      .ok ⟨.ofString "/home/dice", none, "WARNING", .warning, true⟩ := by decide +kernel
  cases found.symm.trans configured
  exact Tree.steady_of_plain (by decide +kernel)

/-- A run fails with a home directory that is named without a step up, and a directory appears. -/
def LeavesDirectory (environment : Environment) (tree : Tree) (launch : Launch σ) : Prop :=
  tree.Sound ∧ (launch.outcome environment tree).ending ≠ .done ∧
    (∀ settings, launch.Reaches environment settings → ".." ∉ settings.home.names) ∧
    ∃ location, tree.get? location = none ∧
      (launch.outcome environment tree).tree.get? location = some .directory

/-- A directory appears when the command fails and leaves one. -/
theorem leavesDirectory_of_perform {launch : Launch σ} {invocation : Invocation}
    {location : Location} (sound : tree.Sound)
    (read : Invocation.ofArguments launch.arguments = .ok invocation)
    (configured : Settings.load invocation.profile environment = .ok settings)
    (straight : ".." ∉ settings.home.names) (absent : tree.get? location = none)
    (fails : ((perform settings launch.moment invocation : Activity σ Unit).run.run
      ⟨tree, launch.source, [], []⟩).1.isOk = false)
    (left : ((perform settings launch.moment invocation : Activity σ Unit).run.run
      ⟨tree, launch.source, [], []⟩).2.tree.get? location = some .directory) :
    LeavesDirectory environment tree launch := by
  refine ⟨sound, fun done => ?_, ?_, location, absent, ?_⟩
  · rw [Launch.ending_eq_done_iff read configured] at done
    rw [done] at fails
    cases fails
  · rintro found ⟨reading, again, loaded⟩
    cases read.symm.trans again
    cases configured.symm.trans loaded
    exact straight
  · rw [Launch.outcome_tree read configured]
    exact left

/-- A run that stores an alias in a profile. -/
def addUnder (profile : String) : Launch Constant :=
  ⟨["-p", profile, "add", "x", "d6"], ⟨2024, 1, 1, 0, 0⟩, ⟨3⟩⟩

/-- A run that stores an alias. -/
def singleAdd : Launch Constant := ⟨["add", "x", "d6"], ⟨2024, 1, 1, 0, 0⟩, ⟨3⟩⟩

/-- The settings of a profile whose alias file would have too long a name. -/
def overlong : Settings := ⟨.ofString "home", some (drone 250), "WARNING", .warning, true⟩

theorem profileSuffix_drone {count : Nat} (long : 0 < count) :
    Settings.profileSuffix (some (drone count)) = some (drone count) := by
  have normal : ∀ c ∈ List.replicate count 'n', Expression.IsNormal c := by
    intro c member
    rw [(List.mem_replicate.1 member).2]
    decide
  have lower : Text.lowercaseChars (List.replicate count 'n') = List.replicate count 'n' :=
    Expression.lowercaseAfter_of_isNormal [] normal
  have letters : (List.replicate count 'n').filter Char.isAlpha = List.replicate count 'n' := by
    refine List.filter_eq_self.2 fun c member => ?_
    rw [(List.mem_replicate.1 member).2]
    decide
  have lasting : (drone count).isEmpty = false := by
    rw [Bool.eq_false_iff, Ne, String.isEmpty_iff]
    intro none
    have size := length_drone count
    rw [none] at size
    exact absurd size (Nat.ne_of_lt long)
  rw [Settings.profileSuffix, Option.map_some, drone, String.toList_ofList, lower, letters, ← drone,
    Option.filter_some, lasting]
  rfl

/-- Where a name below a missing directory is too long, be it that of the alias file or that of a
directory, a run that fails to store an alias leaves the directories above it. -/
theorem add_leaves_directories :
    LeavesDirectory (homedAt "home") deadEndTree (addUnder (drone 250)) ∧
      LeavesDirectory (homedAt ("a/" ++ drone 256)) deadEndTree singleAdd := by
  have sound : deadEndTree.Sound := Tree.sound_of_entries (by decide +kernel)
  constructor
  · have read : Invocation.ofArguments (addUnder (drone 250)).arguments =
        .ok ⟨.add "x" ["d6"] none, some (drone 250), false, false, none⟩ := by decide +kernel
    have configured : Settings.load (some (drone 250)) (homedAt "home") = .ok overlong := by
      rw [settings_of_home _ (by decide) rfl (by decide +kernel), profileSuffix_drone (by decide)]
      rfl
    have straight : ".." ∉ overlong.home.names := by decide +kernel
    have absent : deadEndTree.get? ["w", "home"] = none := by decide +kernel
    exact leavesDirectory_of_perform sound read configured straight absent (by decide +kernel)
      (by decide +kernel)
  · have read : Invocation.ofArguments singleAdd.arguments =
        .ok ⟨.add "x" ["d6"] none, none, false, false, none⟩ := by decide +kernel
    have straight : ".." ∉ deadEnd.home.names := by decide +kernel
    have absent : deadEndTree.get? ["w", "a"] = none := by decide +kernel
    exact leavesDirectory_of_perform sound read settings_deadEnd straight absent (by decide +kernel)
      (by decide +kernel)

end DiceTray.Session
