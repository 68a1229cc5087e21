import DiceTray.Proofs.Session.Commands

/-!
# Runs of the program

The program is run again and again in one environment, and only the files pass from one run to the
next. The alias file then is a map from names to aliases and from roles to colours: the runs that
were carried out change it one after the other, and all others leave it as it was.
-/

namespace DiceTray.Session

open Activity CommandLine Files

variable {σ : Type}

/-- What one run is given, apart from the environment and the files. -/
structure Launch (σ : Type) where
  arguments : List String
  moment : Moment
  /-- The random source of the system. -/
  source : σ

section Runs

variable [RandomSource σ]

namespace Launch

/-- The outcome of a run on a tree. -/
def outcome (launch : Launch σ) (environment : Environment) (tree : Tree) : Outcome σ :=
  run launch.arguments environment launch.moment tree launch.source

/-- The request that a run carries out, if it ends well. -/
def accomplished (launch : Launch σ) (environment : Environment) (tree : Tree) : Option Request :=
  match Invocation.ofArguments launch.arguments with
  | .ok invocation =>
    if (launch.outcome environment tree).ending = .done then some invocation.request else none
  | .error _ => none

end Launch

/-- The tree after runs, one after the other. -/
def treeAfter (environment : Environment) (tree : Tree) : List (Launch σ) → Tree
  | [] => tree
  | launch :: rest => treeAfter environment (launch.outcome environment tree).tree rest

/-- The requests that runs carry out, in order. -/
def accomplished (environment : Environment) (tree : Tree) : List (Launch σ) → List Request
  | [] => []
  | launch :: rest =>
    (launch.accomplished environment tree).toList ++
      accomplished environment (launch.outcome environment tree).tree rest

end Runs

/-- If a run finds settings in an environment, they are the given ones. -/
def Launch.Uses (launch : Launch σ) (environment : Environment) (settings : Settings) : Prop :=
  ∀ invocation found, Invocation.ofArguments launch.arguments = .ok invocation →
    Settings.load invocation.profile environment = .ok found → found = settings

variable {environment : Environment} {settings : Settings} {contents : Contents} {tree : Tree}

/-- Runs with one profile use the settings of that profile. -/
theorem Launch.uses_of_profile {launch : Launch σ} {profile : Option String}
    (configured : Settings.load profile environment = .ok settings)
    (named : ∀ given ∈ (Invocation.ofArguments launch.arguments).toOption.map Invocation.profile,
      given = profile) : launch.Uses environment settings := by
  intro invocation found read loaded
  have same : invocation.profile = profile := named invocation.profile (by rw [read]; rfl)
  rw [same, configured] at loaded
  exact (Except.ok.inj loaded).symm

variable [RandomSource σ]

/-- The files after a run that gets as far as carrying out a request. -/
theorem Launch.outcome_tree {launch : Launch σ} {invocation : Invocation}
    (read : Invocation.ofArguments launch.arguments = .ok invocation)
    (configured : Settings.load invocation.profile environment = .ok settings) :
    (launch.outcome environment tree).tree =
      ((perform settings launch.moment invocation : Activity σ Unit).run.run
        ⟨tree, launch.source, [], []⟩).2.tree := by
  rw [Launch.outcome, run, read]
  dsimp only
  rw [invoke, configured]
  rfl

/-- A fault never ends a run well. -/
theorem ofFault_ne_done (fault : Fault) : Ending.ofFault fault ≠ .done := by
  rw [Ending.ofFault]
  split <;> nofun

/-- A run that gets as far as carrying out a request ends well exactly when that succeeds. -/
theorem Launch.ending_eq_done_iff {launch : Launch σ} {invocation : Invocation}
    (read : Invocation.ofArguments launch.arguments = .ok invocation)
    (configured : Settings.load invocation.profile environment = .ok settings) :
    (launch.outcome environment tree).ending = .done ↔
      ((perform settings launch.moment invocation : Activity σ Unit).run.run
        ⟨tree, launch.source, [], []⟩).1 = .ok () := by
  rw [Launch.outcome, run, read]
  dsimp only
  rw [invoke, configured]
  dsimp only
  rcases (perform settings launch.moment invocation : Activity σ Unit).run.run
    ⟨tree, launch.source, [], []⟩ with ⟨fault | value, left⟩
  · simp [Outcome.ofActivity, ofFault_ne_done]
  · simp [Outcome.ofActivity]

/-- An invocation that ends well changes the contents as its request asks, and any other leaves
them. -/
theorem standing_invoke (apart : settings.aliasPath ≠ settings.historyPath)
    (standing : settings.Standing contents tree) (invocation : Invocation) (moment : Moment)
    (source : σ)
    (uses : ∀ found, Settings.load invocation.profile environment = .ok found → found = settings) :
    ((invoke invocation environment moment tree source).ending = .done ∧
      settings.Standing (contents.after invocation.request)
        (invoke invocation environment moment tree source).tree) ∨
    ((invoke invocation environment moment tree source).ending ≠ .done ∧
      settings.Standing contents (invoke invocation environment moment tree source).tree) := by
  rw [invoke]
  cases loaded : Settings.load invocation.profile environment with
  | error error => exact .inr ⟨ofFault_ne_done _, standing⟩
  | ok found =>
    cases uses found loaded
    have ensured :=
      (turns_perform (σ := σ) apart moment invocation).left ⟨tree, source, [], []⟩ standing
    dsimp only
    cases result : (perform settings moment invocation : Activity σ Unit).run.run
      ⟨tree, source, [], []⟩ with
    | mk outcome left =>
      rw [result] at ensured
      cases outcome with
      | ok value => exact .inl ⟨rfl, ensured⟩
      | error fault => exact .inr ⟨ofFault_ne_done fault, ensured⟩

/-- One run: the request that it carries out, if any, changes the contents. -/
theorem standing_outcome (apart : settings.aliasPath ≠ settings.historyPath)
    (standing : settings.Standing contents tree) (launch : Launch σ)
    (uses : launch.Uses environment settings) :
    settings.Standing ((launch.accomplished environment tree).toList.foldl Contents.after contents)
      (launch.outcome environment tree).tree := by
  cases read : Invocation.ofArguments launch.arguments with
  | error exit =>
    have unread : launch.accomplished environment tree = none := by
      rw [Launch.accomplished, read]
    rw [unread, Launch.outcome, run, read]
    cases exit <;> exact standing
  | ok invocation =>
    have ran : launch.outcome environment tree =
        invoke invocation environment launch.moment tree launch.source := by
      rw [Launch.outcome, run, read]
    rw [Launch.accomplished, read, ran]
    rcases standing_invoke apart standing invocation launch.moment launch.source
      (fun found => uses invocation found read) with ⟨done, changed⟩ | ⟨undone, kept⟩
    · simp only [done, if_true]
      exact changed
    · simp only [undone, if_false]
      exact kept

/-- Runs, one after the other. -/
theorem standing_treeAfter (apart : settings.aliasPath ≠ settings.historyPath)
    (launches : List (Launch σ)) (standing : settings.Standing contents tree)
    (uses : ∀ launch ∈ launches, launch.Uses environment settings) :
    settings.Standing ((accomplished environment tree launches).foldl Contents.after contents)
      (treeAfter environment tree launches) := by
  -- what the file stands for goes along the runs, and changes with those that are carried out
  induction launches generalizing contents tree with
  | nil => exact standing
  | cons launch rest inductionHypothesis =>
    have stepped := standing_outcome apart standing launch (uses launch List.mem_cons_self)
    rw [accomplished, List.foldl_append, treeAfter]
    exact inductionHypothesis stepped fun later member =>
      uses later (List.mem_cons_of_mem launch member)

/-- The alias file is a map that lasts over runs. Whatever runs are made with the same alias file,
and however each of them ends, loading the file strictly afterwards gives the contents it had
before, as changed by the requests of the runs that ended well, in their order. The path of the file
must be steady: when a part of it is missing at first, only plain names follow. -/
theorem alias_file_lasts {store : AliasStore} {launches : List (Launch σ)} (sound : tree.Sound)
    (steady : tree.Steady settings.aliasPath) (apart : settings.aliasPath ≠ settings.historyPath)
    (uses : ∀ launch ∈ launches, launch.Uses environment settings)
    (loaded : (AliasStore.load tree settings.aliasPath true).outcome = .ok store) :
    ∃ final,
      (AliasStore.load (treeAfter environment tree launches) settings.aliasPath true).outcome =
        .ok final ∧
      final.contents =
        (accomplished environment tree launches).foldl Contents.after store.contents :=
  (standing_treeAfter apart launches ⟨⟨store, loaded, rfl⟩, .inr ⟨sound, steady⟩⟩ uses).loads

/-- Three runs: one removes an alias that is not there, one rolls, and one stores an alias. -/
def firstRuns : List (Launch Constant) :=
  [⟨["rm", "ice"], ⟨2024, 1, 1, 0, 0⟩, ⟨3⟩⟩, ⟨["d6"], ⟨2024, 1, 1, 0, 1⟩, ⟨3⟩⟩,
    ⟨["add", " fire", "2d6", "D20+1 "], ⟨2024, 1, 1, 0, 2⟩, ⟨3⟩⟩]

/-- Three runs where not even the home directory is there yet. -/
theorem alias_file_lasts_from_nothing :
    ∃ final,
      (AliasStore.load (treeAfter ⟨[], "/home/dice", []⟩ ⟨.empty, []⟩ firstRuns)
        (.ofString "/home/dice/.roll") true).outcome = .ok final ∧
      final.get? "fire" = some ⟨["2d6", "D20+1"], none⟩ ∧ final.get? "ice" = none := by
  have configured : Settings.load none ⟨[], "/home/dice", []⟩ =
      .ok ⟨.ofString "/home/dice", none, "WARNING", .warning, true⟩ := by decide +kernel
  have uses : ∀ launch ∈ firstRuns, launch.Uses ⟨[], "/home/dice", []⟩
      ⟨.ofString "/home/dice", none, "WARNING", .warning, true⟩ := by
    have named : ∀ launch ∈ firstRuns,
        ∀ given ∈ (Invocation.ofArguments launch.arguments).toOption.map Invocation.profile,
          given = none := by decide +kernel
    exact fun launch member => Launch.uses_of_profile configured (named launch member)
  have requests : accomplished ⟨[], "/home/dice", []⟩ ⟨.empty, []⟩ firstRuns =
      [.roll ["d6"] false, .add " fire" ["2d6", "D20+1 "] none] := by decide +kernel
  have texts : ["2d6", "D20+1 "].map Text.trim = ["2d6", "D20+1"] := by decide +kernel
  have name : Text.trim " fire" = "fire" := by decide +kernel
  have sound : Tree.Sound ⟨.empty, []⟩ := Tree.sound_of_entries (by decide)
  have missing : Tree.locate ⟨.empty, []⟩ (.ofString "/home/dice/.roll") = .error .notFound := by
    decide +kernel
  obtain ⟨final, loaded, same⟩ := alias_file_lasts sound
    (Tree.steady_of_plain (by decide +kernel)) (by decide +kernel) uses
    (AliasStore.load_of_lost missing true)
  rw [requests] at same
  simp only [List.foldl_cons, List.foldl_nil, Contents.after, Contents.assign, texts, name] at same
  have found := congrFun (congrArg Contents.entry? same)
  exact ⟨final, loaded, found "fire", found "ice"⟩

/-- After some runs the alias file is not the map that the runs which ended well make of it. -/
def Strays (environment : Environment) (settings : Settings) (tree : Tree)
    (launches : List (Launch σ)) : Prop :=
  tree.Sound ∧ settings.aliasPath ≠ settings.historyPath ∧
    (∀ launch ∈ launches, launch.Uses environment settings) ∧
    ∃ store, (AliasStore.load tree settings.aliasPath true).outcome = .ok store ∧
      ¬ ∃ final,
        (AliasStore.load (treeAfter environment tree launches) settings.aliasPath true).outcome =
          .ok final ∧
        final.contents =
          (accomplished environment tree launches).foldl Contents.after store.contents

/-- A run that rolls a die. -/
def singleRoll : Launch Constant := ⟨["roll", "d6"], ⟨2024, 1, 1, 0, 0⟩, ⟨3⟩⟩

/-- An environment that names the home directory and nothing else. -/
def homedAt (text : String) : Environment := ⟨[("DICE_NOTATION_HOME", text)], "/home/dice", []⟩

/-- The home directory is named by way of a directory that is missing. -/
def detour : Settings := ⟨.ofString "a/../b", none, "WARNING", .warning, true⟩

/-- An alias file in the directory that the detour leads to, once it leads anywhere. -/
def detourTree : Tree where
  entries := .ofList [(["w"], .directory), (["w", "b"], .directory),
    (["w", "b", ".roll"],
      .file "\x7b\"aliases\": \x7b\"x\": \x7b\"expressions\": [\"d6\"]\x7d\x7d\x7d".toUTF8)]
  workingDirectory := ["w"]

/-- A name of so many letters. -/
def drone (count : Nat) : String := String.ofList (List.replicate count 'n')

theorem length_drone (count : Nat) : (drone count).length = count := by
  rw [drone, String.length_ofList, List.length_replicate]

theorem ofString_drone {count : Nat} (long : 1 < count) :
    Path.ofString ("a/" ++ drone count) = ⟨.relative, ["a", drone count]⟩ := by
  have other (text : String) (short : text.length ≤ 1) : drone count ≠ text := by
    rintro rfl
    rw [length_drone] at short
    omega
  apply Path.ofString_within
  · rw [drone, String.toList_ofList, List.mem_replicate]
    exact fun both => absurd both.2 (by decide)
  · exact other "" (by decide)
  · exact other "." (by decide)

/-- The home directory is to have such a name, within a directory that is missing. -/
def deadEnd : Settings := ⟨⟨.relative, ["a", drone 256]⟩, none, "WARNING", .warning, true⟩

/-- The directory that the dead end begins in. -/
def deadEndTree : Tree := ⟨.ofList [(["w"], .directory)], ["w"]⟩

/-- The settings where only the home directory is named. -/
theorem settings_of_home {text : String} {home : Path} (profile : Option String) (given : text ≠ "")
    (named : Path.ofString text = home) (plain : home.homeSign? = none) :
    Settings.load profile (homedAt text) =
      .ok ⟨home, Settings.profileSuffix profile, "WARNING", .warning, true⟩ := by
  have bound : (homedAt text).get? "DICE_NOTATION_HOME" = some text := rfl
  have unset (name : String) (other : name ≠ "DICE_NOTATION_HOME") :
      (homedAt text).get? name = none := by
    rw [homedAt, Environment.get?, lookup_entry, if_neg other, List.lookup_nil]
  have level : Text.uppercase (Text.trim "WARNING") = "WARNING" := by decide +kernel
  have recorded : Settings.falseValues.contains (Text.lowercase (Text.trim "1")) = false := by
    decide +kernel
  have expanded : Settings.expandHome (homedAt text) home = .ok home := by
    rw [Settings.expandHome, plain]
  have directory : Settings.directory (homedAt text) = .ok home := by
    rw [Settings.directory, bound]
    split
    · next none => cases none
    · next empty => exact absurd (Option.some.inj empty) given
    · next other =>
      obtain rfl := Option.some.inj other
      rw [named]
      exact expanded
  rw [Settings.load, directory]
  simp only [ok_bind, unset "DICE_NOTATION_LOG_LEVEL" (by decide),
    unset "DICE_NOTATION_HISTORY" (by decide), Option.getD_none, level, recorded]
  rfl

/-- A roll without a profile uses the settings of the environment. -/
theorem uses_singleRoll (configured : Settings.load none environment = .ok settings) :
    ∀ launch ∈ [singleRoll], launch.Uses environment settings := by
  intro launch member
  cases List.mem_singleton.1 member
  exact Launch.uses_of_profile configured (by decide +kernel)

/-- An alias comes to light that was not there to be loaded. -/
theorem strays_by_detour : Strays (homedAt "a/../b") detour detourTree [singleRoll] := by
  have configured : Settings.load none (homedAt "a/../b") = .ok detour := by decide +kernel
  have missing : detourTree.locate detour.aliasPath = .error .notFound := by decide +kernel
  refine ⟨Tree.sound_of_entries (by decide +kernel), by decide +kernel, uses_singleRoll configured,
    .empty, AliasStore.load_of_lost missing true, ?_⟩
  rintro ⟨final, loaded, same⟩
  have requests : accomplished (homedAt "a/../b") detourTree [singleRoll] =
      [.roll ["d6"] false] := by decide +kernel
  have light : ((AliasStore.load (treeAfter (homedAt "a/../b") detourTree [singleRoll])
      detour.aliasPath true).outcome.toOption.bind (AliasStore.get? · "x")) =
        some ⟨["d6"], none⟩ := by decide +kernel
  rw [loaded] at light
  rw [requests] at same
  have dark : final.get? "x" = none := congrFun (congrArg Contents.entry? same) "x"
  exact absurd (dark.symm.trans light) (by decide)

theorem settings_deadEnd :
    Settings.load none (homedAt ("a/" ++ drone 256)) = .ok deadEnd := by
  have given : "a/" ++ drone 256 ≠ "" := by
    intro same
    have long := congrArg String.length same
    rw [String.length_append, length_drone] at long
    exact absurd long (by decide)
  exact settings_of_home none given (ofString_drone (by decide)) (by decide +kernel)

/-- The file that was missing can no longer be looked for. -/
theorem strays_at_dead_end :
    Strays (homedAt ("a/" ++ drone 256)) deadEnd deadEndTree [singleRoll] := by
  have missing : deadEndTree.locate deadEnd.aliasPath = .error .notFound := by decide +kernel
  refine ⟨Tree.sound_of_entries (by decide +kernel), ?_, uses_singleRoll settings_deadEnd, .empty,
    AliasStore.load_of_lost missing true, ?_⟩
  · intro same
    exact absurd (congrArg (fun path => path.names[2]?) same) (by decide +kernel)
  · rintro ⟨final, loaded, -⟩
    have read : Invocation.ofArguments singleRoll.arguments =
        .ok ⟨.roll ["d6"] false, none, false, false, none⟩ := by decide +kernel
    rw [treeAfter, treeAfter, Launch.outcome_tree read settings_deadEnd] at loaded
    have dead := congrArg (fun outcome => outcome.toOption.isSome) loaded
    change _ = true at dead
    exact absurd dead (by decide +kernel)

/-- Where the path of the alias file is not steady, a roll can change what is loaded, because
keeping the history makes directories that were missing on the way: an alias file comes to light, or
the path proves to be too long. -/
theorem roll_strays_off_the_way :
    Strays (homedAt "a/../b") detour detourTree [singleRoll] ∧
      Strays (homedAt ("a/" ++ drone 256)) deadEnd deadEndTree [singleRoll] :=
  ⟨strays_by_detour, strays_at_dead_end⟩

end DiceTray.Session
