import DiceTray.CommandLine.Invocation
import DiceTray.Performance
import DiceTray.Settings
import DiceTray.Source.Twister
import DiceTray.Workspace

/-!
# Sessions

A run of the program: the arguments are read, the settings are found, and the command is carried out
in a workspace. A fault that is reported is shown after the log; any other ends the run without a
word of the program's own.

Help is only named as what a run ends in, for the program to lay out, and log records carry neither
a time nor the place where a fault arose.
-/

namespace DiceTray.Session

open CommandLine

/-- The name under which sessions log. -/
def logger : String := "dice_notation.cli"

variable {σ : Type}

/-- Keeps draws in the history file. That the file cannot be written is only logged. -/
def keepDraws (settings : Settings) (moment : Moment) (draws : Draws) : Activity σ Unit := do
  let workspace ← get
  let (kept, tree) := History.append workspace.tree settings.historyPath draws moment
  set { workspace with tree }
  Activity.log kept.journal
  match kept.outcome with
  | .ok _ => return ()
  | .error (.file error) =>
    Activity.log [⟨logger, .warning, "Could not write history to " ++ settings.historyPath.text ++
      ": " ++ error.message⟩]
  | .error fault => throw fault

/-- Shows what was performed and keeps what was drawn, unless the performance failed. -/
def conclude (settings : Settings) (moment : Moment) (performance : Performance) (draws : Draws) :
    Activity σ Unit := do
  Activity.showTexts performance.shown
  performance.ending
  if settings.recordHistory then keepDraws settings moment draws

/-- Rolls a plan, from a seed if there is one and else from the source of the system. -/
def rollPlan [RandomSource σ] (settings : Settings) (moment : Moment) (seed : Option Int)
    (store : AliasStore) (plan : List PlannedRoll) : Activity σ Unit := do
  match seed with
  | some seed =>
    let (performance, recorder) :=
      Performance.ofPlan store none [] plan (Recorder.start (Seeded.ofSeed seed))
    conclude settings moment performance recorder.draws
  | none =>
    let workspace ← get
    let (performance, recorder) :=
      Performance.ofPlan store none [] plan (Recorder.start workspace.source)
    set { workspace with source := recorder.inner }
    conclude settings moment performance recorder.draws

/-- Rolls arguments or shows their averages. Wrong colours do not keep one from rolling. -/
def roll [RandomSource σ] (settings : Settings) (moment : Moment) (seed : Option Int)
    (arguments : List String) (average : Bool) : Activity σ Unit := do
  let store ← Activity.loadStore settings.aliasPath false
  let plan ← (PlannedRoll.ofArguments store 0 arguments : Except Fault (List PlannedRoll))
  if average then
    let rows ← (PlannedRoll.averages .empty plan).mapError Fault.number
    Activity.showTexts (averageLines rows.entries).reverse
  else
    rollPlan settings moment seed store plan

/-- Stores an alias. -/
def add (settings : Settings) (name : String) (expressions : List String)
    (comment : Option String) : Activity σ Unit := do
  let store ← Activity.loadStore settings.aliasPath true
  let (store, added) ← Activity.ofLogged (store.add name expressions comment)
  Activity.saveStore store settings.aliasPath
  Activity.log [⟨logger, .info,
    "Stored alias " ++ Text.quoted name ++ " in " ++ settings.aliasPath.text⟩]
  Activity.showTexts ["Saved " ++ Text.trim name ++ ": " ++ " ".intercalate added.expressions]

/-- Removes an alias. -/
def remove (settings : Settings) (name : String) : Activity σ Unit := do
  let store ← Activity.loadStore settings.aliasPath true
  let (store, _) ← store.remove name
  Activity.saveStore store settings.aliasPath
  Activity.log [⟨logger, .info,
    "Removed alias " ++ Text.quoted name ++ " from " ++ settings.aliasPath.text⟩]
  Activity.showTexts ["Removed " ++ name]

/-- The lines that list an alias. -/
def listLines (name : String) (listed : Alias) : List String :=
  let comment := listed.comment.getD ""
  ("# " ++ name) :: ((if comment.isEmpty then [] else ["# " ++ comment]) ++
    listed.expressions.map (fieldGap ++ ·))

/-- Lists the aliases. -/
def list (settings : Settings) : Activity σ Unit := do
  let store ← Activity.loadStore settings.aliasPath true
  Activity.showTexts (store.listing.flatMap fun entry => listLines entry.1 entry.2).reverse

/-- The store with a colour chosen for a role, if one is given. -/
def chooseColor (role : Role) (color : Option String) (store : AliasStore) :
    Except Fault AliasStore :=
  match color with
  | some color => store.setColor role.name (.text color)
  | none => .ok store

/-- Chooses colours and shows those in use. Without a choice nothing is written. -/
def colors (settings : Settings) (high low : Option String) : Activity σ Unit := do
  let store ← Activity.loadStore settings.aliasPath true
  let store ← chooseColor .high high store
  let store ← chooseColor .low low store
  if high.isSome || low.isSome then Activity.saveStore store settings.aliasPath
  Activity.showTexts (store.highlightColors.map fun choice =>
    choice.1.name ++ ": " ++ choice.2).reverse

/-- Carries out what is asked for. -/
def perform [RandomSource σ] (settings : Settings) (moment : Moment) (invocation : Invocation) :
    Activity σ Unit :=
  match invocation.request with
  | .roll arguments average => roll settings moment invocation.seed arguments average
  | .add name expressions comment => add settings name expressions comment
  | .remove name => remove settings name
  | .list => list settings
  | .colors high low => colors settings high low

/-- How a run ends. -/
inductive Ending
  | done
  /-- Help is asked for, on the program or on a command. -/
  | help (command : Option Command)
  | misused (error : UsageError)
  /-- A fault is reported. -/
  | failed (fault : Fault)
  /-- A fault ends the program. -/
  | escaped (fault : Fault)
deriving DecidableEq

/-- The exit code of an ending, if the program itself chooses one. -/
def Ending.code? : Ending → Option Nat
  | .done | .help _ => some 0
  | .failed _ => some 1
  | .misused _ => some 2
  | .escaped _ => none

/-- The last line on the error stream, if there is one. -/
def Ending.lines : Ending → List String
  | .failed fault => ["error: " ++ fault.message]
  | .misused error => [error.message]
  | .done | .help _ | .escaped _ => []

/-- The ending of a fault. -/
def Ending.ofFault (fault : Fault) : Ending :=
  if fault.isReported then .failed fault else .escaped fault

/-- What a run shows and leaves behind. -/
structure Outcome (σ : Type) where
  ending : Ending
  output : String
  /-- The lines written to the error stream. -/
  diagnostics : List String
  tree : Files.Tree
  /-- The random source of the system. -/
  source : σ

/-- The outcome of a run that ends before a command is carried out. -/
def Outcome.early (ending : Ending) (tree : Files.Tree) (source : σ) : Outcome σ :=
  ⟨ending, "", ending.lines, tree, source⟩

/-- The records that are important enough for a threshold, as lines. -/
def visibleLines (threshold : Level) (journal : Journal) : List String :=
  (journal.filter fun record => threshold.rank ≤ record.level.rank).map Record.line

/-- The outcome of an activity for a command. -/
def Outcome.ofActivity (command : Command) (threshold : Level) (result : Except Fault Unit)
    (workspace : Workspace σ) : Outcome σ :=
  let (ending, records) : Ending × Journal :=
    match result with
    | .ok () => (.done, [])
    | .error fault =>
      (.ofFault fault,
        if fault.isReported then
          [⟨logger, .debug, "Command " ++ Text.quoted command.name ++ " failed"⟩]
        else [])
  ⟨ending, workspace.output,
    visibleLines threshold (workspace.journal ++ records) ++ ending.lines,
    workspace.tree, workspace.source⟩

/-- Carries out an invocation. -/
def invoke [RandomSource σ] (invocation : Invocation) (environment : Environment)
    (moment : Moment) (tree : Files.Tree) (source : σ) : Outcome σ :=
  match Settings.load invocation.profile environment with
  | .error error => .early (.ofFault (.settings error)) tree source
  | .ok settings =>
    let threshold := if invocation.verbose then .debug else settings.level
    let (result, workspace) := (perform settings moment invocation).run.run ⟨tree, source, [], []⟩
    .ofActivity invocation.request.command threshold result workspace

/-- Runs the program. -/
def run [RandomSource σ] (arguments : List String) (environment : Environment) (moment : Moment)
    (tree : Files.Tree) (source : σ) : Outcome σ :=
  match Invocation.ofArguments arguments with
  | .error (.help command) => .early (.help command) tree source
  | .error (.usage error) => .early (.misused error) tree source
  | .ok invocation => invoke invocation environment moment tree source

/-- The files that a run may read or write. -/
def paths (arguments : List String) (environment : Environment) : List Files.Path :=
  match Invocation.ofArguments arguments with
  | .error _ => []
  | .ok invocation =>
    match Settings.load invocation.profile environment with
    | .error _ => []
    | .ok settings => [settings.aliasPath, settings.historyPath]

end DiceTray.Session
