import DiceTray.Proofs.Session.Runs

/-!
# What a run does to the files

A run touches no file, or saves a store to the alias file of its profile, or adds lines to the
history file. Saving is the last step that can fail, and a history that cannot be written does not
make the run fail. All that is proved about the files of failed runs and of other profiles follows
from these cases.
-/

namespace DiceTray

open Files

/-- Requests that save the store when they are carried out. -/
def CommandLine.Request.saves : CommandLine.Request → Bool
  | .add .. | .remove _ => true
  | .colors high low => high.isSome || low.isSome
  | .list | .roll .. => false

namespace Session

open Activity CommandLine

/-- The files after a request was carried out with settings, or could not be carried out to its end.
-/
inductive Effect (settings : Settings) (request : Request) (tree : Tree) : Bool → Tree → Prop
  /-- No file is touched. -/
  | untouched (done : Bool) : Effect settings request tree done tree
  /-- A store is saved to the alias file. -/
  | saved {store : AliasStore} {kept : AliasStore} (saves : request.saves = true)
      (success : (store.save tree settings.aliasPath).1.outcome = .ok kept) :
      Effect settings request tree true (store.save tree settings.aliasPath).2
  /-- A store cannot be saved to the alias file, from which one was loaded. -/
  | unsaved {store loaded : AliasStore} {fault : Fault}
      (before : (AliasStore.load tree settings.aliasPath true).outcome = .ok loaded)
      (failure : (store.save tree settings.aliasPath).1.outcome = .error fault) :
      Effect settings request tree false (store.save tree settings.aliasPath).2
  /-- Lines are added to the history file, if it can be written. -/
  | recorded {arguments : List String} (lines : List String)
      (rolls : request = .roll arguments false) :
      Effect settings request tree true (History.appendLines tree settings.historyPath lines).2

variable {σ α : Type} {settings : Settings} {request : Request} {tree : Tree}

/-- A run gets as far as carrying out a request with the settings. -/
def Launch.Reaches (launch : Launch σ) (environment : Environment) (settings : Settings) : Prop :=
  ∃ invocation, Invocation.ofArguments launch.arguments = .ok invocation ∧
    Settings.load invocation.profile environment = .ok settings

/-- The activity has the effect of a request on a tree, whether it succeeds or fails. -/
def Affects (settings : Settings) (request : Request) (tree : Tree) (activity : Activity σ Unit) :
    Prop :=
  Ensures (OfFiles (· = tree)) activity (fun _ => OfFiles (Effect settings request tree true))
    (OfFiles (Effect settings request tree false))

/-- What leaves the tree when it fails may begin a request. -/
theorem ensures_begun {activity : Activity σ α} {after : α → Workspace σ → Prop}
    (ensures : Ensures (OfFiles (· = tree)) activity after (OfFiles (· = tree))) :
    Ensures (OfFiles (· = tree)) activity after (OfFiles (Effect settings request tree false)) :=
  ensures.imp (fun _ _ holds => holds) fun _ same => same ▸ .untouched false

theorem affects_of_untouched {activity : Activity σ Unit}
    (ensures : Ensures (OfFiles (· = tree)) activity (fun _ => OfFiles (· = tree))
      (OfFiles (· = tree))) : Affects settings request tree activity :=
  ensures.imp (fun _ _ same => same ▸ .untouched true) fun _ same => same ▸ .untouched false

/-- A store is loaded from the tree that a request begins with. -/
theorem ensures_loadBegun (path : Path) (strict : Bool) :
    Ensures (OfFiles (· = tree)) (loadStore path strict : Activity σ AliasStore)
      (fun store => OfFiles fun left =>
        (AliasStore.load tree path strict).outcome = .ok store ∧ left = tree)
      (OfFiles (Effect settings request tree false)) :=
  (ensures_begun (ensures_loadStore path strict)).imp
    (fun _ _ loaded => ⟨loaded.2 ▸ loaded.1, loaded.2⟩) fun _ failed => failed

/-- Saving a store where one was loaded is what a request that saves comes to. -/
theorem affects_saveStore {store loaded : AliasStore} (saves : request.saves = true)
    (before : (AliasStore.load tree settings.aliasPath true).outcome = .ok loaded) :
    Affects settings request tree (saveStore store settings.aliasPath : Activity σ Unit) := by
  refine ensures_saveStore (fun _ kept same success => ?_) fun _ fault same failure => ?_
  · subst same
    exact .saved saves success
  · subst same
    exact .unsaved before failure

theorem affects_list : Affects settings request tree (list settings : Activity σ Unit) :=
  ensures_bind (ensures_loadBegun _ _) fun _ => ensures_assuming fun _ =>
    affects_of_untouched (ensures_showTexts _)

theorem affects_add (name : String) (expressions : List String) (comment : Option String) :
    Affects settings (.add name expressions comment) tree
      (add settings name expressions comment : Activity σ Unit) := by
  refine ensures_bind (ensures_loadBegun _ _) fun store => ensures_assuming fun loaded => ?_
  refine ensures_bind (ensures_begun (ensures_ofLogged _)) fun _ => ensures_assuming fun _ => ?_
  refine ensures_bind (affects_saveStore rfl loaded) fun _ => ?_
  exact ensures_bind (ensures_log _) fun _ => ensures_showTexts _

theorem affects_remove (name : String) :
    Affects settings (.remove name) tree (remove settings name : Activity σ Unit) := by
  refine ensures_bind (ensures_loadBegun _ _) fun store => ensures_assuming fun loaded => ?_
  refine ensures_bind (ensures_begun (ensures_result _)) fun _ => ensures_assuming fun _ => ?_
  refine ensures_bind (affects_saveStore rfl loaded) fun _ => ?_
  exact ensures_bind (ensures_log _) fun _ => ensures_showTexts _

theorem affects_colors (high low : Option String) :
    Affects settings (.colors high low) tree (colors settings high low : Activity σ Unit) := by
  refine ensures_bind (ensures_loadBegun _ _) fun store => ensures_assuming fun loaded => ?_
  refine ensures_bind (ensures_begun (ensures_result _)) fun _ => ensures_assuming fun _ => ?_
  refine ensures_bind (ensures_begun (ensures_result _)) fun _ => ensures_assuming fun _ => ?_
  split
  · next chosen =>
    exact ensures_bind (affects_saveStore chosen loaded) fun _ => ensures_showTexts _
  · exact affects_of_untouched (ensures_showTexts _)

theorem affects_keepDraws (arguments : List String) (moment : Moment) (draws : Draws) :
    Affects settings (.roll arguments false) tree
      (keepDraws settings moment draws : Activity σ Unit) := by
  refine ⟨fun workspace same => ?_⟩
  cases same
  rcases keepDraws_cases settings moment draws workspace with
    ⟨_, _, -, ran⟩ | ⟨_, -, ran⟩ | ⟨lines, _, -, ran⟩ <;> rw [ran]
  · exact .untouched false
  · exact .untouched true
  · exact .recorded lines rfl

theorem affects_conclude (arguments : List String) (moment : Moment) (performance : Performance)
    (draws : Draws) :
    Affects settings (.roll arguments false) tree
      (conclude settings moment performance draws : Activity σ Unit) := by
  refine ensures_bind (ensures_showTexts _) fun _ => ?_
  refine ensures_bind (ensures_begun (ensures_result _)) fun _ => ensures_assuming fun _ => ?_
  split
  · exact affects_keepDraws arguments moment draws
  · exact affects_of_untouched (ensures_pure fun _ same => same)

variable [RandomSource σ]

theorem affects_rollPlan (arguments : List String) (moment : Moment) (seed : Option Int)
    (store : AliasStore) (plan : List PlannedRoll) :
    Affects settings (.roll arguments false) tree
      (rollPlan settings moment seed store plan : Activity σ Unit) := by
  cases seed with
  | some seed => exact affects_conclude arguments moment _ _
  | none =>
    -- the source of the system changes before anything is shown
    exact ⟨fun workspace same =>
      (affects_conclude arguments moment _ _).left { workspace with source := _ } same⟩

theorem affects_roll (moment : Moment) (seed : Option Int) (arguments : List String)
    (average : Bool) :
    Affects settings (.roll arguments average) tree
      (roll settings moment seed arguments average : Activity σ Unit) := by
  refine ensures_bind (ensures_loadBegun _ _) fun store => ensures_assuming fun _ => ?_
  refine ensures_bind (ensures_begun (ensures_result _)) fun plan => ensures_assuming fun _ => ?_
  cases average with
  | true =>
    refine affects_of_untouched (ensures_bind (ensures_result _) fun rows => ?_)
    exact ensures_assuming fun _ => ensures_showTexts _
  | false => exact affects_rollPlan arguments moment seed store plan

/-- Carrying out an invocation has the effect of its request. -/
theorem affects_perform (moment : Moment) (invocation : Invocation) :
    Affects settings invocation.request tree
      (perform settings moment invocation : Activity σ Unit) := by
  rw [perform]
  cases invocation.request with
  | roll arguments average => exact affects_roll moment invocation.seed arguments average
  | add name expressions comment => exact affects_add name expressions comment
  | remove name => exact affects_remove name
  | list => exact affects_list
  | colors high low => exact affects_colors high low

/-- What a run does to the files: it ends before a command is carried out and leaves them, or it has
the effect of a request with the settings of its profile. -/
theorem Launch.effect_outcome (launch : Launch σ) (environment : Environment) (tree : Tree) :
    ((launch.outcome environment tree).ending ≠ .done ∧
      (launch.outcome environment tree).tree = tree) ∨
    ∃ invocation settings done, Invocation.ofArguments launch.arguments = .ok invocation ∧
      Settings.load invocation.profile environment = .ok settings ∧
      ((launch.outcome environment tree).ending = .done ↔ done = true) ∧
      Effect settings invocation.request tree done (launch.outcome environment tree).tree := by
  cases read : Invocation.ofArguments launch.arguments with
  | error exit =>
    rw [Launch.outcome, run, read]
    cases exit <;> exact .inl ⟨by simp [Outcome.early], rfl⟩
  | ok invocation =>
    cases configured : Settings.load invocation.profile environment with
    | error error =>
      rw [Launch.outcome, run, read]
      dsimp only
      rw [invoke, configured]
      exact .inl ⟨ofFault_ne_done _, rfl⟩
    | ok settings =>
      have affects : Affects settings invocation.request tree
          (perform settings launch.moment invocation : Activity σ Unit) :=
        affects_perform launch.moment invocation
      have affected := affects.left ⟨tree, launch.source, [], []⟩ rfl
      rw [Launch.ending_eq_done_iff read configured, Launch.outcome_tree read configured]
      rcases result : (perform settings launch.moment invocation : Activity σ Unit).run.run
        ⟨tree, launch.source, [], []⟩ with ⟨fault | value, left⟩ <;> rw [result] at affected
      · exact .inr ⟨invocation, settings, false, rfl, configured, by simp, affected⟩
      · exact .inr ⟨invocation, settings, true, rfl, configured, by simp, affected⟩

end Session

end DiceTray
