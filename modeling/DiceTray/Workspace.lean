import DiceTray.Alias.File
import DiceTray.History

/-!
# Workspaces

The files, the log, the terminal and the random source that a command works with. An activity may
fail at any point, and what it did before stays done. Showing a text never fails: the terminal
takes every text that it is given.
-/

namespace DiceTray

/-- What a command works with. -/
structure Workspace (σ : Type) where
  tree : Files.Tree
  /-- The random source of the system. -/
  source : σ
  journal : Journal := []
  /-- The texts that were shown, newest first. -/
  shown : List String := []

/-- What is written for the texts that were shown. -/
def Workspace.output {σ : Type} (workspace : Workspace σ) : String :=
  String.join (workspace.shown.reverse.map Text.printed)

/-- A computation in a workspace that may fail. -/
abbrev Activity (σ α : Type) := ExceptT Fault (StateM (Workspace σ)) α

namespace Activity

variable {σ α : Type}

/-- Writes log records. -/
def log (records : Journal) : Activity σ Unit :=
  modify fun workspace => { workspace with journal := workspace.journal ++ records }

/-- Shows texts, given newest first. -/
def showTexts (texts : List String) : Activity σ Unit :=
  modify fun workspace => { workspace with shown := texts ++ workspace.shown }

/-- Writes the records of a computation and goes on with its outcome. -/
def ofLogged (computation : Logged Fault α) : Activity σ α := do
  log computation.journal
  computation.outcome

/-- Reads the store at a path. -/
def loadStore (path : Files.Path) (strict : Bool) : Activity σ AliasStore := do
  ofLogged (AliasStore.load (← get).tree path strict)

/-- Writes a store to a path. -/
def saveStore (store : AliasStore) (path : Files.Path) : Activity σ Unit := do
  let workspace ← get
  let (saved, tree) := store.save workspace.tree path
  set { workspace with tree }
  discard (ofLogged saved)

/-- What a computation with records comes to in a workspace. -/
theorem run_ofLogged (computation : Logged Fault α) (workspace : Workspace σ) :
    (ofLogged computation).run.run workspace =
      (computation.outcome,
        { workspace with journal := workspace.journal ++ computation.journal }) := by
  rcases computation with ⟨records, error | value⟩ <;> rfl

/-- Loading changes no file. -/
theorem run_loadStore (path : Files.Path) (strict : Bool) (workspace : Workspace σ) :
    (loadStore path strict).run.run workspace =
      ((AliasStore.load workspace.tree path strict).outcome,
        { workspace with
          journal := workspace.journal ++ (AliasStore.load workspace.tree path strict).journal }) :=
  run_ofLogged (AliasStore.load workspace.tree path strict) workspace

end Activity

end DiceTray
