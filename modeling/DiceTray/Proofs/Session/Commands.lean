import DiceTray.Proofs.Activity
import DiceTray.Proofs.Alias.Persistence

/-!
# Commands and the alias file

What each command does to the contents of the alias file: adding, removing and choosing colours
change them as asked when the command succeeds, and in every other case they stay as they were.
-/

namespace DiceTray

open Files

/-- The name of the alias file of the profile. -/
def Settings.aliasName (settings : Settings) : String :=
  match settings.profile with
  | some suffix => aliasFile ++ "." ++ suffix
  | none => aliasFile

theorem Settings.aliasName_ne_parent (settings : Settings) : settings.aliasName ≠ ".." := by
  rw [aliasName]
  split
  · next suffix _ =>
    intro same
    have characters := congrArg String.toList same
    simp [aliasFile] at characters
  · decide

/-- The alias file that settings name stands for some contents. -/
def Settings.Standing (settings : Settings) (contents : Contents) (tree : Tree) : Prop :=
  AliasStore.Stands tree settings.home settings.aliasName contents

namespace Session

open Activity CommandLine

variable {σ : Type} {settings : Settings} {contents : Contents}

/-- An activity turns the contents that the alias file stands for into others, or fails and leaves
them. -/
def Turns (settings : Settings) (contents : Contents) (activity : Activity σ Unit)
    (changed : Contents) : Prop :=
  Ensures (OfFiles (settings.Standing contents)) activity
    (fun _ => OfFiles (settings.Standing changed)) (OfFiles (settings.Standing contents))

/-- What is loaded strictly is valid and has the contents that the file stands for. -/
theorem ensures_loadAliases :
    Ensures (OfFiles (settings.Standing contents))
      (loadStore settings.aliasPath true : Activity σ AliasStore)
      (fun store => OfFiles fun tree =>
        (store.Valid ∧ store.contents = contents) ∧ settings.Standing contents tree)
      (OfFiles (settings.Standing contents)) := by
  refine ⟨fun workspace standing => ?_⟩
  have begun := (ensures_loadStore settings.aliasPath true).left workspace standing
  cases result : (loadStore settings.aliasPath true : Activity σ AliasStore).run.run workspace with
  | mk outcome left =>
    rw [result] at begun
    cases outcome with
    | error fault => exact begun
    | ok store =>
      obtain ⟨loaded, standing⟩ := begun
      obtain ⟨held, found, same⟩ := standing.loads
      cases found.symm.trans loaded
      exact ⟨⟨AliasStore.valid_load loaded, same⟩, standing⟩

/-- Saving a valid store makes its contents those of the file, or fails and leaves them. -/
theorem turns_saveAliases {store : AliasStore} (valid : store.Valid) :
    Turns settings contents (saveStore store settings.aliasPath : Activity σ Unit)
      store.contents := by
  refine ensures_saveStore (fun tree saved standing done => ?_)
    fun tree fault standing refused => ?_
  · rcases standing.save valid with ⟨fault, refused, -⟩ | ⟨_, -, replaced⟩
    · cases done.symm.trans refused
    · exact replaced
  · rcases standing.save valid with ⟨_, -, kept⟩ | ⟨saved, done, -⟩
    · exact kept
    · cases refused.symm.trans done

theorem turns_list : Turns settings contents (list settings : Activity σ Unit) contents :=
  ensures_bind ensures_loadAliases fun _ => ensures_assuming fun _ => ensures_showTexts _

theorem turns_add (name : String) (expressions : List String) (comment : Option String) :
    Turns settings contents (add settings name expressions comment : Activity σ Unit)
      (contents.after (.add name expressions comment)) := by
  refine ensures_bind ensures_loadAliases fun store => ensures_assuming fun ⟨valid, same⟩ => ?_
  refine ensures_bind (ensures_ofLogged _) fun (changed, added) => ensures_assuming fun done => ?_
  refine ensures_bind (turns_saveAliases (valid.add done)) fun _ => ?_
  rw [AliasStore.contents_add done, same]
  exact ensures_bind (ensures_log _) fun _ => ensures_showTexts _

theorem turns_remove (name : String) :
    Turns settings contents (remove settings name : Activity σ Unit)
      (contents.after (.remove name)) := by
  refine ensures_bind ensures_loadAliases fun store => ensures_assuming fun ⟨valid, same⟩ => ?_
  refine ensures_bind (ensures_result _) fun (changed, removed) => ensures_assuming fun done => ?_
  refine ensures_bind (turns_saveAliases (valid.remove done)) fun _ => ?_
  rw [AliasStore.contents_remove done, same]
  exact ensures_bind (ensures_log _) fun _ => ensures_showTexts _

theorem turns_colors (high low : Option String) :
    Turns settings contents (colors settings high low : Activity σ Unit)
      (contents.after (.colors high low)) := by
  refine ensures_bind ensures_loadAliases fun store => ensures_assuming fun ⟨valid, same⟩ => ?_
  refine ensures_bind (ensures_result _) fun bright => ensures_assuming fun first => ?_
  refine ensures_bind (ensures_result _) fun both => ensures_assuming fun second => ?_
  have chosen : both.contents = contents.after (.colors high low) := by
    rw [AliasStore.contents_chooseColor second, AliasStore.contents_chooseColor first, same]
    rfl
  split
  · refine ensures_bind (turns_saveAliases ((valid.chooseColor first).chooseColor second))
      fun _ => ?_
    rw [chosen]
    exact ensures_showTexts _
  · next unchosen =>
    -- without a choice nothing is written, and nothing has to be
    obtain ⟨rfl, rfl⟩ : high = none ∧ low = none := by
      cases high <;> cases low <;> simp at unchosen ⊢
    exact ensures_bind (ensures_pure fun _ standing => standing) fun _ => ensures_showTexts _

/-- Keeping draws fails only when one of their numbers cannot be written. Without lines the files
are left as they are, and else the lines are added to the history, or cannot be. -/
theorem keepDraws_cases (settings : Settings) (moment : Moment) (draws : Draws)
    (workspace : Workspace σ) :
    (∃ error journal, History.lines draws moment.stamp History.programVersion = .error error ∧
      (keepDraws settings moment draws : Activity σ Unit).run.run workspace =
        (.error (.number error), { workspace with journal })) ∨
    (∃ journal, History.lines draws moment.stamp History.programVersion = .ok [] ∧
      (keepDraws settings moment draws : Activity σ Unit).run.run workspace =
        (.ok (), { workspace with journal })) ∨
    ∃ lines journal, History.lines draws moment.stamp History.programVersion = .ok lines ∧
      (keepDraws settings moment draws : Activity σ Unit).run.run workspace =
        (.ok (), { workspace with
          journal
          tree := (History.appendLines workspace.tree settings.historyPath lines).2 }) := by
  rw [keepDraws, run_get_bind]
  rcases History.append_cases workspace.tree settings.historyPath draws moment with
    ⟨error, failed, appended⟩ | ⟨none, appended⟩ | ⟨lines, written, -, appended⟩ <;> rw [appended]
  · exact .inl ⟨error, _, failed, rfl⟩
  · exact .inr (.inl ⟨_, none, rfl⟩)
  · have outcome := History.appendLines_cases workspace.tree settings.historyPath lines
    rcases result : History.appendLines workspace.tree settings.historyPath lines with
      ⟨⟨journal, value⟩, left⟩
    rw [result] at outcome
    -- that the file cannot be written is only logged
    rcases outcome with ⟨error, failed, -⟩ | ⟨success, -⟩
    · cases failed
      exact .inr (.inr ⟨lines, _, written, by rw [result]; rfl⟩)
    · cases success
      exact .inr (.inr ⟨lines, _, written, by rw [result]; rfl⟩)

/-- Keeping draws leaves the aliases alone. -/
theorem turns_keepDraws (apart : settings.aliasPath ≠ settings.historyPath) (moment : Moment)
    (draws : Draws) :
    Turns settings contents (keepDraws settings moment draws : Activity σ Unit)
      contents := by
  have names : settings.aliasName ≠ Settings.historyFile := fun same =>
    apart (congrArg settings.home.child same)
  refine ensures_of_tree fun workspace standing => ?_
  rcases keepDraws_cases settings moment draws workspace with
    ⟨_, _, -, ran⟩ | ⟨_, -, ran⟩ | ⟨lines, _, -, ran⟩ <;> rw [ran]
  · exact standing
  · exact standing
  · exact standing.appendLines names settings.aliasName_ne_parent (by decide) lines

theorem turns_conclude (apart : settings.aliasPath ≠ settings.historyPath) (moment : Moment)
    (performance : Performance) (draws : Draws) :
    Turns settings contents (conclude settings moment performance draws : Activity σ Unit)
      contents := by
  refine ensures_bind (ensures_showTexts _) fun _ => ?_
  refine ensures_bind (ensures_result _) fun _ => ensures_assuming fun _ => ?_
  split
  · exact turns_keepDraws apart moment draws
  · exact ensures_pure fun _ standing => standing

variable [RandomSource σ]

theorem turns_rollPlan (apart : settings.aliasPath ≠ settings.historyPath) (moment : Moment)
    (seed : Option Int) (store : AliasStore) (plan : List PlannedRoll) :
    Turns settings contents (rollPlan settings moment seed store plan : Activity σ Unit)
      contents := by
  cases seed with
  | some seed => exact turns_conclude apart moment _ _
  | none =>
    -- the source of the system changes before anything is shown
    exact ⟨fun workspace standing =>
      (turns_conclude apart moment _ _).left { workspace with source := _ } standing⟩

theorem turns_roll (apart : settings.aliasPath ≠ settings.historyPath) (moment : Moment)
    (seed : Option Int) (arguments : List String) (average : Bool) :
    Turns settings contents (roll settings moment seed arguments average : Activity σ Unit)
      contents := by
  have loaded : Ensures (OfFiles (settings.Standing contents))
      (loadStore settings.aliasPath false : Activity σ AliasStore)
      (fun _ => OfFiles (settings.Standing contents)) (OfFiles (settings.Standing contents)) :=
    ensures_of_tree fun workspace standing => by rwa [run_loadStore]
  refine ensures_bind loaded fun store => ?_
  refine ensures_bind (ensures_result _) fun plan => ensures_assuming fun _ => ?_
  split
  · refine ensures_bind (ensures_result _) fun rows => ensures_assuming fun _ => ?_
    exact ensures_showTexts _
  · exact turns_rollPlan apart moment seed store plan

/-- A command that succeeds changes the contents as its request asks, and one that fails leaves
them. -/
theorem turns_perform (apart : settings.aliasPath ≠ settings.historyPath) (moment : Moment)
    (invocation : Invocation) :
    Turns settings contents (perform settings moment invocation : Activity σ Unit)
      (contents.after invocation.request) := by
  rw [perform]
  cases invocation.request with
  | roll arguments average => exact turns_roll apart moment invocation.seed arguments average
  | add name expressions comment => exact turns_add name expressions comment
  | remove name => exact turns_remove name
  | list => exact turns_list
  | colors high low => exact turns_colors high low

end Session

end DiceTray
