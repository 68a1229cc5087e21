import DiceTray.Proofs.Session.Effects

/-!
# Profiles

Each profile has an alias file of its own in the home directory, and all of them share the history.
In whatever order the program is run with one home directory and another, what is loaded from the
file of one profile changes only when a run saves the store of that profile. Profiles are the same
here when the same letters are left of their names.
-/

namespace DiceTray

/-- The name of an alias file tells what is left of the profile's name. -/
theorem Settings.profile_of_aliasName {settings other : Settings}
    (same : settings.aliasName = other.aliasName) : settings.profile = other.profile := by
  have cancel {left right : String} (equal : aliasFile ++ "." ++ left = aliasFile ++ "." ++ right) :
      left = right := by
    have characters := congrArg String.toList equal
    simp only [String.toList_append] at characters
    exact String.toList_injective (List.append_cancel_left characters)
  have longer (suffix : String) : aliasFile ≠ aliasFile ++ "." ++ suffix := fun equal => by
    have lengths := congrArg String.length equal
    simp only [String.length_append] at lengths
    have dot : ".".length = 1 := rfl
    omega
  rw [aliasName, aliasName] at same
  cases mine : settings.profile with
  | none =>
    cases theirs : other.profile with
    | none => rfl
    | some suffix =>
      rw [mine, theirs] at same
      exact absurd same (longer suffix)
  | some suffix =>
    cases theirs : other.profile with
    | none =>
      rw [mine, theirs] at same
      exact absurd same.symm (longer suffix)
    | some others =>
      rw [mine, theirs] at same
      exact congrArg some (cancel same)

/-- One profile has the history file for its alias file, and no other has. -/
theorem Settings.aliasName_ne_historyFile {settings : Settings}
    (other : settings.profile ≠ some "history") : settings.aliasName ≠ historyFile := by
  intro same
  have history : settings.aliasName = { settings with profile := some "history" }.aliasName := same
  exact other (Settings.profile_of_aliasName history)

theorem Settings.aliasPath_ne_historyPath {settings : Settings}
    (other : settings.profile ≠ some "history") : settings.aliasPath ≠ settings.historyPath := by
  intro same
  have names : settings.home.names ++ [settings.aliasName] = settings.home.names ++ [historyFile] :=
    congrArg Files.Path.names same
  exact aliasName_ne_historyFile other (List.cons.inj (List.append_cancel_left names)).1

/-- A profile decides nothing but what is left of its name. -/
theorem Settings.load_eq_map (profile other : Option String) (environment : Environment) :
    Settings.load profile environment =
      (Settings.load other environment).map ({ · with profile := profileSuffix profile }) := by
  rw [Settings.load, Settings.load]
  cases directory environment with
  | error error => rfl
  | ok home =>
    simp only [ok_bind]
    generalize Text.uppercase _ = levelName, falseValues.contains _ = unrecorded
    cases Level.ofName? levelName with
    | none => rfl
    | some level => rfl

theorem Settings.profile_of_load {profile : Option String} {environment : Environment}
    {settings : Settings} (configured : Settings.load profile environment = .ok settings) :
    settings.profile = profileSuffix profile := by
  have again := Settings.load_eq_map profile profile environment
  rw [configured] at again
  exact congrArg Settings.profile (Except.ok.inj again)

/-- In one environment all profiles share the home directory. -/
theorem Settings.home_of_load {profile other : Option String} {environment : Environment}
    {settings found : Settings} (configured : Settings.load profile environment = .ok settings)
    (others : Settings.load other environment = .ok found) : found.home = settings.home := by
  have again := Settings.load_eq_map other profile environment
  rw [configured, others] at again
  cases again
  rfl

namespace Session

open Activity AliasStore CommandLine Files

variable {σ : Type} {settings found : Settings} {request : Request} {tree after : Tree}
  {done : Bool}

/-- What a request does with the settings of one profile to the file of another: the profiles come
down to the same and the store was saved, or what is loaded stays the same. -/
theorem Effect.loadsAlike (effect : Effect found request tree done after)
    (housed : found.home = settings.home) (other : settings.profile ≠ some "history")
    (settled : Settled tree settings.home settings.aliasName) :
    (done = true ∧ request.saves = true ∧ found.profile = settings.profile ∧
      Settled after settings.home settings.aliasName) ∨
    LoadsAlike tree after settings.home settings.aliasName := by
  have path : found.aliasPath = settings.home.child found.aliasName :=
    congrArg (Path.child · found.aliasName) housed
  have history : found.historyPath = settings.home.child Settings.historyFile :=
    congrArg (Path.child · Settings.historyFile) housed
  cases effect with
  | untouched => exact .inr (.refl settled)
  | @saved store kept saves success =>
    rcases store.save_cases tree found.aliasPath with ⟨fault, failure, -⟩ | ⟨-, placed⟩
    · cases success.symm.trans failure
    · by_cases shared : found.profile = settings.profile
      · have parent : found.aliasPath.parent = settings.home := by rw [path, Path.parent_child]
        have there := placed.isDirectory
        rw [parent] at there
        exact .inl ⟨rfl, saves, shared, .inr (.inl there)⟩
      · rw [path] at placed ⊢
        refine .inr (settled.placed (fun same => shared ?_) settings.aliasName_ne_parent
          found.aliasName_ne_parent placed)
        exact (Settings.profile_of_aliasName same).symm
  | @unsaved store loaded fault before failure =>
    rcases store.save_cases tree found.aliasPath with ⟨-, -, left⟩ | ⟨success, -⟩
    · rw [left, path, Path.parent_child]
      exact .inr settled.makeDirectories
    · cases success.symm.trans failure
  | recorded lines rolls =>
    rw [history]
    rcases History.appendLines_cases tree (settings.home.child Settings.historyFile) lines with
      ⟨-, -, left⟩ | ⟨-, placed⟩
    · rw [left, Path.parent_child]
      exact .inr settled.makeDirectories
    · exact .inr (settled.placed (Settings.aliasName_ne_historyFile other)
        settings.aliasName_ne_parent (by decide) placed)

/-- Rolling adds to the history file if it changes a file at all. -/
theorem Effect.extends_of_roll {arguments : List String} {average : Bool}
    (effect : Effect found (.roll arguments average) tree done after) :
    tree.SameFiles after ∨ ∃ more, tree.Extended found.historyPath more after := by
  cases effect with
  | untouched => exact .inl (.refl tree)
  | saved saves => cases saves
  | unsaved before failure => exact .inl (sameFiles_save_of_error failure)
  | recorded lines =>
    rcases History.appendLines_cases tree found.historyPath lines with ⟨-, -, left⟩ | ⟨-, placed⟩
    · rw [left]
      exact .inl (tree.sameFiles_makeDirectories _)
    · exact .inr ⟨(History.block lines).toUTF8, placed.extended⟩

/-- A run with the environment that it is made in. -/
structure Call (σ : Type) extends Launch σ where
  environment : Environment

namespace Call

/-- Whatever settings a run finds, they have the home directory. -/
def AtHome (call : Call σ) (home : Path) : Prop :=
  ∀ settings, call.toLaunch.Reaches call.environment settings → settings.home = home

theorem atHome_of_environment {call : Call σ} {profile : Option String} {environment : Environment}
    (configured : Settings.load profile environment = .ok settings)
    (same : call.environment = environment) : call.AtHome settings.home := by
  rintro found ⟨invocation, -, loaded⟩
  rw [same] at loaded
  exact Settings.home_of_load configured loaded

/-- A run is to roll, or to show averages. -/
def Rolls (call : Call σ) : Prop :=
  ∃ invocation arguments average, Invocation.ofArguments call.arguments = .ok invocation ∧
    invocation.request = .roll arguments average

variable [RandomSource σ]

/-- The outcome of a run on a tree. -/
def outcome (call : Call σ) (tree : Tree) : Outcome σ :=
  call.toLaunch.outcome call.environment tree

/-- The tree after runs, one after the other. -/
def treeAfter (tree : Tree) (calls : List (Call σ)) : Tree :=
  calls.foldl (fun tree call => (call.outcome tree).tree) tree

/-- A run adds or removes an alias or chooses a colour, with success and for a profile of which the
suffix is left. -/
def Saves (call : Call σ) (suffix : Option String) (tree : Tree) : Prop :=
  (call.outcome tree).ending = .done ∧
    ∃ invocation, Invocation.ofArguments call.arguments = .ok invocation ∧
      invocation.request.saves = true ∧ Settings.profileSuffix invocation.profile = suffix

variable {call : Call σ} {calls : List (Call σ)}

/-- One run: it saves the file of the profile, or what is loaded from it stays the same. -/
theorem loadsAlike_outcome (atHome : call.AtHome settings.home)
    (other : settings.profile ≠ some "history")
    (settled : Settled tree settings.home settings.aliasName) :
    (call.Saves settings.profile tree ∧
      Settled (call.outcome tree).tree settings.home settings.aliasName) ∨
    LoadsAlike tree (call.outcome tree).tree settings.home settings.aliasName := by
  rcases call.effect_outcome call.environment tree with
    ⟨-, same⟩ | ⟨invocation, found, done, read, configured, ended, effect⟩
  · rw [outcome, same]
    exact .inr (.refl settled)
  · have housed : found.home = settings.home := atHome found ⟨invocation, read, configured⟩
    rcases effect.loadsAlike housed other settled with ⟨well, saves, shared, left⟩ | alike
    · rw [Settings.profile_of_load configured] at shared
      exact .inl ⟨⟨ended.2 well, invocation, read, saves, shared⟩, left⟩
    · exact .inr alike

/-- Runs, one after the other: making directories never comes to decide what is loaded. -/
theorem settled_treeAfter (calls : List (Call σ))
    (atHome : ∀ call ∈ calls, call.AtHome settings.home)
    (other : settings.profile ≠ some "history")
    (settled : Settled tree settings.home settings.aliasName) :
    Settled (treeAfter tree calls) settings.home settings.aliasName := by
  induction calls generalizing tree with
  | nil => exact settled
  | cons call rest inductionHypothesis =>
    have later : ∀ call ∈ rest, call.AtHome settings.home := fun next member =>
      atHome next (List.mem_cons_of_mem call member)
    rcases loadsAlike_outcome (atHome call List.mem_cons_self) other settled with
      ⟨-, left⟩ | alike
    · exact inductionHypothesis later left
    · exact inductionHypothesis later alike.settled

/-- A roll adds to the history file if it changes a file at all. -/
theorem Rolls.extends (rolls : call.Rolls) (atHome : call.AtHome settings.home) (tree : Tree) :
    tree.SameFiles (call.outcome tree).tree ∨
      ∃ more, tree.Extended settings.historyPath more (call.outcome tree).tree := by
  obtain ⟨asked, arguments, average, given, request⟩ := rolls
  rcases call.effect_outcome call.environment tree with
    ⟨-, same⟩ | ⟨invocation, found, done, read, configured, ended, effect⟩
  · rw [outcome, same]
    exact .inl (.refl tree)
  · cases given.symm.trans read
    have history : found.historyPath = settings.historyPath :=
      congrArg (Path.child · Settings.historyFile) (atHome found ⟨asked, read, configured⟩)
    rw [request] at effect
    rw [outcome, ← history]
    exact effect.extends_of_roll

theorem Rolls.not_saves (rolls : call.Rolls) (suffix : Option String) (tree : Tree) :
    ¬ call.Saves suffix tree := by
  obtain ⟨asked, arguments, average, given, request⟩ := rolls
  rintro ⟨-, invocation, read, saves, -⟩
  cases given.symm.trans read
  rw [request] at saves
  cases saves

end Call

section Isolation

variable [RandomSource σ]

/-- Profiles are kept apart from each other and from the history. However the program is run with
one home directory, and whatever the other variables and the profiles are, a run changes what is
loaded for a profile, strictly or not, only when it ends well and adds or removes an alias or
chooses a colour for a profile of which the same suffix is left. In particular no roll changes it,
and what a roll changes is that bytes are added to the history file. The suffix must not be that of
the history file, and the path of the alias file must be steady at first. -/
theorem profiles_are_isolated {profile : Option String} {environment : Environment}
    {calls : List (Call σ)} (configured : Settings.load profile environment = .ok settings)
    (other : Settings.profileSuffix profile ≠ some "history") (sound : tree.Sound)
    (steady : tree.Steady settings.aliasPath)
    (atHome : ∀ call ∈ calls, call.AtHome settings.home) :
    settings.aliasPath ≠ settings.historyPath ∧
      ∀ before call rest, calls = before ++ call :: rest →
        (¬ call.Saves (Settings.profileSuffix profile) (Call.treeAfter tree before) →
          ∀ strict,
            (load (Call.treeAfter tree (before ++ [call])) settings.aliasPath strict).outcome =
              (load (Call.treeAfter tree before) settings.aliasPath strict).outcome) ∧
        (call.Rolls →
          ¬ call.Saves (Settings.profileSuffix profile) (Call.treeAfter tree before) ∧
          ((Call.treeAfter tree before).SameFiles (Call.treeAfter tree (before ++ [call])) ∨
            ∃ more, (Call.treeAfter tree before).Extended settings.historyPath more
              (Call.treeAfter tree (before ++ [call])))) := by
  have left := Settings.profile_of_load configured
  rw [← left] at other ⊢
  refine ⟨Settings.aliasPath_ne_historyPath other, fun before call rest split => ?_⟩
  subst split
  have step : Call.treeAfter tree (before ++ [call]) =
      (call.outcome (Call.treeAfter tree before)).tree := by
    rw [Call.treeAfter, List.foldl_append]
    rfl
  have here : call.AtHome settings.home := atHome call (by simp)
  have settled : Settled (Call.treeAfter tree before) settings.home settings.aliasName :=
    Call.settled_treeAfter before (fun call member => atHome call (List.mem_append_left _ member))
      other (.inr (.inr ⟨sound, steady⟩))
  rw [step]
  refine ⟨fun idle => ?_, fun rolls => ⟨rolls.not_saves _ _, rolls.extends here _⟩⟩
  rcases Call.loadsAlike_outcome here other settled with ⟨saves, -⟩ | alike
  · exact absurd saves idle
  · exact alike.outcome

/-- A run in an environment without variables. -/
def plainCall (arguments : List String) : Call Constant where
  arguments
  moment := ⟨2024, 1, 1, 0, 0⟩
  source := ⟨3⟩
  environment := ⟨[], "/home/dice", []⟩

/-- One profile gets an alias, another one loses what it does not have, and a third rolls. -/
def mixedCalls : List (Call Constant) :=
  [plainCall ["-p", "Work", "add", "x", "d6"], plainCall ["-p", "play", "rm", "x"],
    plainCall ["-p", "Spiel", "d20"]]

/-- Over the roll the same is loaded for the first profile, which goes by another name here. -/
theorem profiles_are_isolated_from_a_roll :
    ∃ before after, before = Call.treeAfter ⟨.empty, []⟩ (mixedCalls.take 2) ∧
      after = Call.treeAfter ⟨.empty, []⟩ mixedCalls ∧
      (load after (.ofString "/home/dice/.roll.work") true).outcome =
        (load before (.ofString "/home/dice/.roll.work") true).outcome ∧
      (before.get? ["home", "dice", ".roll.work"]).isSome = true ∧
      after.get? ["home", "dice", ".roll.history"] ≠
        before.get? ["home", "dice", ".roll.history"] := by
  have configured : Settings.load (some "WORK 2") ⟨[], "/home/dice", []⟩ =
      .ok ⟨.ofString "/home/dice", some "work", "WARNING", .warning, true⟩ := by decide +kernel
  have atHome : ∀ call ∈ mixedCalls, call.AtHome (.ofString "/home/dice") := by
    have alike : ∀ call ∈ mixedCalls, call.environment = ⟨[], "/home/dice", []⟩ := by
      simp [mixedCalls, plainCall]
    exact fun call member => Call.atHome_of_environment configured (alike call member)
  have sound : Tree.Sound ⟨.empty, []⟩ := Tree.sound_of_entries (by decide)
  have isolated := (profiles_are_isolated configured (by decide +kernel) sound
    (Tree.steady_of_plain (by decide +kernel)) atHome).2 (mixedCalls.take 2)
      (plainCall ["-p", "Spiel", "d20"]) [] rfl
  have idle := (isolated.2 ⟨⟨.roll ["d20"] false, some "Spiel", false, false, none⟩, _, _,
    by decide +kernel, rfl⟩).1
  exact ⟨_, _, rfl, rfl, isolated.1 idle true, by decide +kernel, by decide +kernel⟩

/-- A run that rolls changes what is loaded strictly for a profile of the same home directory. -/
def Disturbs (call : Call σ) (profile : Option String) (tree : Tree) : Prop :=
  tree.Sound ∧ call.Rolls ∧ ∃ settings, Settings.load profile call.environment = .ok settings ∧
    call.AtHome settings.home ∧
    (load (call.outcome tree).tree settings.aliasPath true).outcome ≠
      (load tree settings.aliasPath true).outcome

/-- A roll in an environment. -/
def rollIn (environment : Environment) : Call Constant := { singleRoll with environment }

theorem rolls_rollIn (environment : Environment) : (rollIn environment).Rolls := by
  have read : Invocation.ofArguments singleRoll.arguments =
      .ok ⟨.roll ["d6"] false, none, false, false, none⟩ := by decide +kernel
  exact ⟨_, ["d6"], false, read, rfl⟩

/-- A roll disturbs when the contents that are loaded after it are not those from before. -/
theorem disturbs_of_strays {environment : Environment}
    (configured : Settings.load none environment = .ok settings)
    (strays : Strays environment settings tree [singleRoll]) :
    Disturbs (rollIn environment) none tree := by
  obtain ⟨sound, -, -, store, before, changed⟩ := strays
  refine ⟨sound, rolls_rollIn environment, settings, configured,
    Call.atHome_of_environment configured rfl, fun same => changed ⟨store, same.trans before, ?_⟩⟩
  -- a roll asks for no change, whether it ends well or not
  obtain ⟨invocation, arguments, average, read, request⟩ := rolls_rollIn environment
  change Invocation.ofArguments singleRoll.arguments = .ok invocation at read
  rw [accomplished, accomplished, Launch.accomplished, read]
  dsimp only
  rw [request]
  split <;> rfl

/-- The profile of which "history" is left has the history for its alias file. Where a roll is kept,
nothing can be loaded for it any more. -/
theorem rollIn_disturbs_history :
    Disturbs (rollIn ⟨[], "/home/dice", []⟩) (some "history") ⟨.empty, []⟩ := by
  have configured : Settings.load (some "history") ⟨[], "/home/dice", []⟩ =
      .ok ⟨.ofString "/home/dice", some "history", "WARNING", .warning, true⟩ := by decide +kernel
  refine ⟨Tree.sound_of_entries (by decide), rolls_rollIn _, _, configured,
    Call.atHome_of_environment configured rfl, fun same => ?_⟩
  have loaded := congrArg (fun outcome => outcome.toOption.isSome) same
  exact absurd loaded (by decide +kernel)

/-- A roll can change what is loaded for a profile: for the one whose alias file is the history, and
where the path of the alias file is not steady. -/
theorem roll_disturbs_profiles :
    Disturbs (rollIn ⟨[], "/home/dice", []⟩) (some "history") ⟨.empty, []⟩ ∧
      Disturbs (rollIn (homedAt "a/../b")) none detourTree ∧
      Disturbs (rollIn (homedAt ("a/" ++ drone 256))) none deadEndTree :=
  ⟨rollIn_disturbs_history, disturbs_of_strays (by decide +kernel) strays_by_detour,
    disturbs_of_strays settings_deadEnd strays_at_dead_end⟩

end Isolation

end Session

end DiceTray
