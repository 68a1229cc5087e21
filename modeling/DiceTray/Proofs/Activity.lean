import DiceTray.Session

/-!
# What activities ensure

A judgement on activities in three parts: what holds before, what holds afterwards when the activity
succeeds, and what holds when it fails, for what was done before a failure stays done. There is one
rule for a sequence and one for each of the activities that commands are made of.
-/

namespace DiceTray.Activity

variable {σ α β : Type}

/-- Where `before` holds, the activity succeeds with a value and a workspace of which `after` holds,
or fails and leaves a workspace of which `failed` holds. -/
structure Ensures (before : Workspace σ → Prop) (activity : Activity σ α)
    (after : α → Workspace σ → Prop) (failed : Workspace σ → Prop) : Prop where
  /-- What holds of the workspace that is left. -/
  left : ∀ workspace, before workspace →
    match activity.run.run workspace with
    | (.ok value, left) => after value left
    | (.error _, left) => failed left

variable {before failed : Workspace σ → Prop} {after : α → Workspace σ → Prop}

/-- A sequence goes on in the workspace that its first part leaves, unless that fails. -/
theorem run_bind (first : Activity σ α) (next : α → Activity σ β) (workspace : Workspace σ) :
    (first >>= next).run.run workspace =
      match first.run.run workspace with
      | (.ok value, left) => (next value).run.run left
      | (.error fault, left) => (.error fault, left) := by
  change (ExceptT.bindCont next =<< first.run).run workspace = _
  cases result : first.run.run workspace with
  | mk outcome left =>
    change (ExceptT.bindCont next (first.run.run workspace).1).run (first.run.run workspace).2 = _
    rw [result]
    cases outcome <;> rfl

/-- A sequence succeeds exactly when both of its parts do. -/
theorem run_bind_eq_ok_iff {first : Activity σ α} {next : α → Activity σ β} {result : β}
    {workspace left : Workspace σ} :
    (first >>= next).run.run workspace = (.ok result, left) ↔
      ∃ value middle, first.run.run workspace = (.ok value, middle) ∧
        (next value).run.run middle = (.ok result, left) := by
  rw [run_bind]
  rcases first.run.run workspace with ⟨fault | value, middle⟩
  · constructor
    · exact nofun
    · rintro ⟨_, _, failed, -⟩
      cases failed
  · constructor
    · exact fun done => ⟨value, middle, rfl, done⟩
    · rintro ⟨_, _, same, done⟩
      cases same
      exact done

/-- A result that does not depend on the workspace leaves it as it is. -/
theorem run_result (result : Except Fault α) (workspace : Workspace σ) :
    (liftM result : Activity σ α).run.run workspace = (result, workspace) := by
  cases result <;> rfl

/-- What reads the workspace first goes on with the one that it runs in. -/
theorem run_get_bind (next : Workspace σ → Activity σ β) (workspace : Workspace σ) :
    (get >>= next).run.run workspace = (next workspace).run.run workspace :=
  rfl

/-- What is ensured may be said in weaker words. -/
theorem Ensures.imp {activity : Activity σ α} {after' : α → Workspace σ → Prop}
    {failed' : Workspace σ → Prop} (ensures : Ensures before activity after failed)
    (succeeds : ∀ value workspace, after value workspace → after' value workspace)
    (fails : ∀ workspace, failed workspace → failed' workspace) :
    Ensures before activity after' failed' := by
  refine ⟨fun workspace required => ?_⟩
  have left := ensures.left workspace required
  cases result : activity.run.run workspace with
  | mk outcome remaining =>
    rw [result] at left
    cases outcome with
    | ok value => exact succeeds value remaining left
    | error fault => exact fails remaining left

theorem ensures_pure {value : α} (holds : ∀ workspace, before workspace → after value workspace) :
    Ensures before (pure value) after failed :=
  ⟨fun workspace required => holds workspace required⟩

/-- Each part of a sequence starts from what the part before it ensures. -/
theorem ensures_bind {first : Activity σ α} {next : α → Activity σ β}
    {middle : α → Workspace σ → Prop} {after : β → Workspace σ → Prop}
    (start : Ensures before first middle failed)
    (rest : ∀ value, Ensures (middle value) (next value) after failed) :
    Ensures before (first >>= next) after failed := by
  refine ⟨fun workspace required => ?_⟩
  have begun := start.left workspace required
  rw [run_bind]
  cases result : first.run.run workspace with
  | mk outcome left =>
    rw [result] at begun
    cases outcome with
    | error fault => exact begun
    | ok value => exact (rest value).left left begun

/-- A condition on the files, which what is logged or shown does not touch. -/
def OfFiles (condition : Files.Tree → Prop) (workspace : Workspace σ) : Prop :=
  condition workspace.tree

variable {condition : Files.Tree → Prop}

/-- A fact that does not depend on the workspace may be assumed. -/
theorem ensures_assuming {fact : Prop} {activity : Activity σ α}
    (ensures : fact → Ensures (OfFiles condition) activity after failed) :
    Ensures (OfFiles fun tree => fact ∧ condition tree) activity after failed :=
  ⟨fun workspace required => (ensures required.1).left workspace required.2⟩

/-- An activity that leaves a condition true in any case ensures it. -/
theorem ensures_of_tree {activity : Activity σ α}
    (kept : ∀ workspace : Workspace σ, condition workspace.tree →
      condition (activity.run.run workspace).2.tree) :
    Ensures (OfFiles condition) activity (fun _ => OfFiles condition) (OfFiles condition) := by
  refine ⟨fun workspace required => ?_⟩
  have still := kept workspace required
  cases result : activity.run.run workspace with
  | mk outcome after =>
    rw [result] at still
    cases outcome with
    | ok value => exact still
    | error fault => exact still

/-- A result is computed without touching the files. -/
theorem ensures_result (result : Except Fault α) :
    Ensures (OfFiles condition) (liftM result : Activity σ α)
      (fun value => OfFiles fun tree => result = .ok value ∧ condition tree)
      (OfFiles condition) := by
  refine ⟨fun workspace required => ?_⟩
  cases result with
  | ok value => exact ⟨rfl, required⟩
  | error fault => exact required

theorem ensures_log (records : Journal) :
    Ensures (OfFiles condition) (log records : Activity σ Unit) (fun _ => OfFiles condition)
      failed :=
  ⟨fun _ required => required⟩

theorem ensures_showTexts (texts : List String) :
    Ensures (OfFiles condition) (showTexts texts : Activity σ Unit) (fun _ => OfFiles condition)
      failed :=
  ⟨fun _ required => required⟩

theorem ensures_ofLogged (computation : Logged Fault α) :
    Ensures (OfFiles condition) (ofLogged computation : Activity σ α)
      (fun value => OfFiles fun tree => computation.outcome = .ok value ∧ condition tree)
      (OfFiles condition) := by
  refine ⟨fun workspace required => ?_⟩
  rw [run_ofLogged]
  cases computation.outcome with
  | ok value => exact ⟨rfl, required⟩
  | error fault => exact required

/-- Loading changes no file. -/
theorem ensures_loadStore (path : Files.Path) (strict : Bool) :
    Ensures (OfFiles condition) (loadStore path strict : Activity σ AliasStore)
      (fun store => OfFiles fun tree =>
        (AliasStore.load tree path strict).outcome = .ok store ∧ condition tree)
      (OfFiles condition) := by
  refine ⟨fun workspace required => ?_⟩
  rw [run_loadStore]
  cases result : (AliasStore.load workspace.tree path strict).outcome with
  | ok store => exact ⟨result, required⟩
  | error fault => exact required

theorem run_saveStore (store : AliasStore) (path : Files.Path) (workspace : Workspace σ) :
    (saveStore store path).run.run workspace =
      ((store.save workspace.tree path).1.outcome.map fun _ => (),
        { workspace with
          tree := (store.save workspace.tree path).2
          journal := workspace.journal ++ (store.save workspace.tree path).1.journal }) := by
  rw [saveStore, run_get_bind]
  rcases store.save workspace.tree path with ⟨⟨records, error | saved⟩, tree⟩ <;> rfl

/-- Saving ensures what it does to the files, whether it succeeds or fails. -/
theorem ensures_saveStore {store : AliasStore} {path : Files.Path}
    {after failed : Files.Tree → Prop}
    (succeeds : ∀ tree saved, condition tree → (store.save tree path).1.outcome = .ok saved →
      after (store.save tree path).2)
    (fails : ∀ tree fault, condition tree → (store.save tree path).1.outcome = .error fault →
      failed (store.save tree path).2) :
    Ensures (OfFiles condition) (saveStore store path : Activity σ Unit)
      (fun _ => OfFiles after) (OfFiles failed) := by
  refine ⟨fun workspace required => ?_⟩
  rw [run_saveStore]
  cases outcome : (store.save workspace.tree path).1.outcome with
  | ok saved => exact succeeds workspace.tree saved required outcome
  | error fault => exact fails workspace.tree fault required outcome

end DiceTray.Activity
