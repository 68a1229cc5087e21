import DiceTray.Proofs.Line.Averages
import DiceTray.Proofs.Plan.Averages
import DiceTray.Proofs.Session.Nested

/-!
# Aliases in the place of their expressions

A successful roll shows what its arguments show in turn, and keeps what they draw. So an alias may
be replaced by its expressions: only its heading is missing then, and every value, every total and
the history are the same. Averages do not even show which arguments are aliases.
-/

namespace DiceTray.Session

open Activity

variable {σ : Type} {settings : Settings} {moment : Moment} {draws : Draws}
  {workspace after : Workspace σ}

/-! ## Concluding -/

/-- Keeps draws in the history file, if there is to be one. -/
def keep (settings : Settings) (moment : Moment) (draws : Draws) : Activity σ Unit := do
  if settings.recordHistory then keepDraws settings moment draws

/-- What was shown does not matter for the history. -/
theorem run_keep_shown (settings : Settings) (moment : Moment) (draws : Draws)
    (workspace : Workspace σ) (texts : List String) :
    (keep settings moment draws : Activity σ Unit).run.run { workspace with shown := texts } =
      (((keep settings moment draws : Activity σ Unit).run.run workspace).1,
        { ((keep settings moment draws : Activity σ Unit).run.run workspace).2 with
          shown := texts }) := by
  rw [keep]
  split
  · rw [keepDraws, run_get_bind, run_get_bind]
    rcases History.append workspace.tree settings.historyPath draws moment with
      ⟨⟨journal, fault | value⟩, tree⟩
    · cases fault <;> rfl
    · rfl
  · rfl

/-- A roll is concluded when it ended well and its draws were kept. -/
theorem run_conclude_eq_ok_iff {performance : Performance} :
    (conclude settings moment performance draws : Activity σ Unit).run.run workspace =
        (.ok (), after) ↔
      ∃ lines kept, performance.outcome = .ok lines ∧
        (keep settings moment draws : Activity σ Unit).run.run workspace = (.ok (), kept) ∧
        after = { kept with shown := lines.reverse ++ workspace.shown } := by
  obtain ⟨shown, fault | ⟨⟩⟩ := performance
  · constructor
    · exact nofun
    · rintro ⟨_, _, ended, -⟩
      cases ended
  · have concluded : (conclude settings moment ⟨shown, .ok ()⟩ draws : Activity σ Unit).run.run
          workspace =
        (keep settings moment draws : Activity σ Unit).run.run
          { workspace with shown := shown ++ workspace.shown } := rfl
    have ended : Performance.outcome ⟨shown, .ok ()⟩ = .ok shown.reverse := rfl
    rw [concluded, run_keep_shown, ended]
    rcases (keep settings moment draws : Activity σ Unit).run.run workspace with ⟨result, kept⟩
    constructor
    · intro same
      cases same
      exact ⟨shown.reverse, kept, rfl, rfl, by rw [List.reverse_reverse]⟩
    · rintro ⟨_, _, same, done, rfl⟩
      cases same
      cases done
      rw [List.reverse_reverse]

/-! ## Rolling arguments in turn -/

variable [RandomSource σ] {seed : Option Int} {store : AliasStore}

/-- What arguments show when they are rolled in turn, and what is drawn for them. -/
structure Rolled (σ : Type) where
  /-- The lines, or the fault that ended the roll. -/
  lines : Except Fault (List String)
  draws : Draws
  /-- The source of the system afterwards. -/
  source : σ

/-- Rolls arguments in turn, from a seed if there is one and else from a source. -/
def rollArguments (seed : Option Int) (source : σ) (store : AliasStore)
    (arguments : List String) : Rolled σ :=
  match seed with
  | some seed =>
    let (lines, recorder) :=
      Performance.showArguments store arguments (Recorder.start (Seeded.ofSeed seed))
    ⟨lines, recorder.draws, source⟩
  | none =>
    let (lines, recorder) := Performance.showArguments store arguments (Recorder.start source)
    ⟨lines, recorder.draws, recorder.inner⟩

/-- The performance of a plan comes to what its arguments come to in turn. -/
theorem outcome_ofPlan_of_ofArguments {τ : Type} [RandomSource τ] {arguments : List String}
    {plan : List PlannedRoll} (valid : store.Valid)
    (planned : PlannedRoll.ofArguments store 0 arguments = .ok plan) (recorder : Recorder τ) :
    ((Performance.ofPlan store none [] plan recorder).1.outcome,
        (Performance.ofPlan store none [] plan recorder).2) =
      Performance.showArguments store arguments recorder := by
  have whole : (Performance.showPlan store none plan : Showing (Recorder τ)) =
      Performance.showArguments store arguments :=
    Performance.showPlan_ofArguments valid planned nofun
  rw [Performance.outcome_ofPlan, List.reverse_nil, Showing.lines_nil_andThen, whole]

/-- A plan is rolled when its arguments are rolled in turn and the draws for them are kept. -/
theorem run_rollPlan_eq_ok_iff {arguments : List String} {plan : List PlannedRoll}
    (valid : store.Valid) (planned : PlannedRoll.ofArguments store 0 arguments = .ok plan) :
    (rollPlan settings moment seed store plan : Activity σ Unit).run.run workspace =
        (.ok (), after) ↔
      ∃ lines kept, (rollArguments seed workspace.source store arguments).lines = .ok lines ∧
        (keep settings moment (rollArguments seed workspace.source store arguments).draws :
            Activity σ Unit).run.run
            { workspace with
              source := (rollArguments seed workspace.source store arguments).source } =
          (.ok (), kept) ∧
        after = { kept with shown := lines.reverse ++ workspace.shown } := by
  cases seed with
  | some seed =>
    have performed :=
      outcome_ofPlan_of_ofArguments valid planned (Recorder.start (Seeded.ofSeed seed))
    rw [rollArguments, ← performed]
    exact run_conclude_eq_ok_iff
  | none =>
    have performed :=
      outcome_ofPlan_of_ofArguments valid planned (Recorder.start workspace.source)
    rw [rollArguments, ← performed]
    have left (performance : Performance) (recorder : Recorder σ) :
        (conclude settings moment performance recorder.draws : Activity σ Unit).run.run
            { workspace with source := recorder.inner } = (.ok (), after) ↔ _ :=
      run_conclude_eq_ok_iff
    exact left _ _

/-- With the expressions of an alias in its place the same is drawn, and the same is shown but for
its heading. -/
theorem rollArguments_of_alias {source : σ} {front back : List String} {name : String}
    {named : Alias} {texts : List String} (found : store.get? name = some named)
    (plain : ∀ text ∈ named.expressions, store.get? text = none)
    (done : (rollArguments seed source store (front ++ name :: back)).lines = .ok texts) :
    ∃ above below, (rollArguments seed source store front).lines = .ok above ∧
      texts = above ++ store.heading name :: below ∧
      rollArguments seed source store (front ++ named.expressions ++ back) =
        { rollArguments seed source store (front ++ name :: back) with
          lines := .ok (above ++ below) } := by
  cases seed with
  | some seed =>
    obtain ⟨above, middle, below, first, same, replaced⟩ :=
      Performance.showArguments_of_alias found plain (Prod.ext done rfl)
    refine ⟨above, below, congrArg Prod.fst first, same, ?_⟩
    rw [rollArguments, replaced]
    rfl
  | none =>
    obtain ⟨above, middle, below, first, same, replaced⟩ :=
      Performance.showArguments_of_alias found plain (Prod.ext done rfl)
    refine ⟨above, below, congrArg Prod.fst first, same, ?_⟩
    rw [rollArguments, replaced]
    rfl

/-! ## Rolls and averages -/

variable {before : Workspace σ} {arguments : List String}

/-- A roll succeeds when it can be planned, its arguments can be rolled in turn, and the draws for
them are kept. -/
theorem run_roll_eq_ok_iff
    (loaded : (AliasStore.load before.tree settings.aliasPath false).outcome = .ok store) :
    (roll settings moment seed arguments false : Activity σ Unit).run.run before = (.ok (), after) ↔
      (∃ plan, PlannedRoll.ofArguments store 0 arguments = .ok plan) ∧
        ∃ lines kept, (rollArguments seed before.source store arguments).lines = .ok lines ∧
          (keep settings moment (rollArguments seed before.source store arguments).draws :
              Activity σ Unit).run.run
            { loading settings before with
              source := (rollArguments seed before.source store arguments).source } =
              (.ok (), kept) ∧
          after = { kept with shown := lines.reverse ++ before.shown } := by
  cases planned : PlannedRoll.ofArguments store 0 arguments with
  | error fault =>
    rw [run_roll_of_fault loaded planned]
    constructor
    · exact nofun
    · rintro ⟨⟨_, unplanned⟩, -⟩
      cases unplanned
  | ok plan =>
    rw [run_roll_of_plan loaded planned,
      run_rollPlan_eq_ok_iff (AliasStore.valid_load loaded) planned]
    exact (and_iff_right ⟨plan, rfl⟩).symm

/-- Averages of the same texts are shown alike. -/
theorem run_average_congr {other : List String}
    (loaded : (AliasStore.load before.tree settings.aliasPath false).outcome = .ok store)
    (same : store.texts arguments = store.texts other) :
    (roll settings moment seed arguments true : Activity σ Unit).run.run before =
      (roll settings moment seed other true : Activity σ Unit).run.run before := by
  cases first : (store.texts arguments).findSome? Expression.fault? with
  | some fault =>
    rw [run_roll_of_fault loaded (PlannedRoll.ofArguments_of_fault first),
      run_roll_of_fault loaded (PlannedRoll.ofArguments_of_fault (same ▸ first))]
  | none =>
    obtain ⟨plan, planned⟩ := PlannedRoll.exists_plan 0 first
    obtain ⟨others, plannedOthers⟩ := PlannedRoll.exists_plan 0 (same ▸ first)
    have texts : plan.map PlannedRoll.text = others.map PlannedRoll.text := by
      rw [PlannedRoll.map_text_of_ofArguments planned,
        PlannedRoll.map_text_of_ofArguments plannedOthers, same]
    rw [run_average_of_plan loaded planned, run_average_of_plan loaded plannedOthers,
      PlannedRoll.averages_congr texts (PlannedRoll.map_item_of_ofArguments planned).2
        (PlannedRoll.map_item_of_ofArguments plannedOthers).2]

/-- The averages that are shown are a table with a row for each text, in the order of their first
occurrence. -/
theorem table_of_run_average
    (loaded : (AliasStore.load before.tree settings.aliasPath false).outcome = .ok store)
    (done : (roll settings moment seed arguments true : Activity σ Unit).run.run before =
      (.ok (), after)) :
    ∃ (rows : List (String × Binary64)) (width : Nat) (lines : List String),
      rows.map Prod.fst = (store.texts arguments).eraseDups ∧ (∀ row ∈ rows, Averaged row) ∧
      Tabulates rows width lines ∧
      after = { loading settings before with shown := lines.reverse ++ before.shown } := by
  cases planned : PlannedRoll.ofArguments store 0 arguments with
  | error fault =>
    rw [run_roll_of_fault loaded planned] at done
    cases done
  | ok plan =>
    rw [run_average_of_plan loaded planned] at done
    cases computed : PlannedRoll.averages .empty plan with
    | error error =>
      rw [computed] at done
      cases done
    | ok rows =>
      rw [computed] at done
      cases done
      refine ⟨rows.entries, _, _, ?_, ?_, tabulates_averageLines rows.entries, rfl⟩
      · have keys := PlannedRoll.keys_of_averages computed
        rw [PlannedRoll.map_text_of_ofArguments planned] at keys
        simpa [OrderedMap.keys, OrderedMap.empty] using keys
      · exact PlannedRoll.averaged_of_averages (PlannedRoll.map_item_of_ofArguments planned).2
          (fun _ member => absurd member List.not_mem_nil) computed

/-- A roll shows its arguments in turn. In a workspace where the aliases can be loaded, whatever is
rolled from whatever source, a roll that succeeds shows for each argument, all drawing from one
source, the heading and the results of the expressions if the argument is an alias, and else its own
results. When an alias is replaced by its expressions, of which none is itself the name of an alias,
the roll succeeds as well: its heading is missing among the lines, and the history, the source and
the log are left the same. The averages are the same altogether: they are shown as a table that has
one line for each text, where the text first occurs. -/
theorem roll_shows_arguments_in_turn
    (loaded : (AliasStore.load before.tree settings.aliasPath false).outcome = .ok store)
    (moment : Moment) (seed : Option Int) :
    (∀ arguments after,
      (roll settings moment seed arguments false : Activity σ Unit).run.run before =
        (.ok (), after) →
      ∃ lines, (rollArguments seed before.source store arguments).lines = .ok lines ∧
        after.shown = lines.reverse ++ before.shown) ∧
    (∀ front name back named, store.get? name = some named →
      (∀ text ∈ named.expressions, store.get? text = none) →
      (∀ after,
        (roll settings moment seed (front ++ name :: back) false : Activity σ Unit).run.run before =
          (.ok (), after) →
        ∃ above below, (rollArguments seed before.source store front).lines = .ok above ∧
          after.shown = (above ++ store.heading name :: below).reverse ++ before.shown ∧
          (roll settings moment seed (front ++ named.expressions ++ back) false :
              Activity σ Unit).run.run before =
            (.ok (), { after with shown := (above ++ below).reverse ++ before.shown })) ∧
      (roll settings moment seed (front ++ name :: back) true : Activity σ Unit).run.run before =
        (roll settings moment seed (front ++ named.expressions ++ back) true :
          Activity σ Unit).run.run before) ∧
    ∀ arguments after,
      (roll settings moment seed arguments true : Activity σ Unit).run.run before =
        (.ok (), after) →
      ∃ (rows : List (String × Binary64)) (width : Nat) (lines : List String),
        rows.map Prod.fst = (store.texts arguments).eraseDups ∧ (∀ row ∈ rows, Averaged row) ∧
        Tabulates rows width lines ∧ after.shown = lines.reverse ++ before.shown := by
  refine ⟨fun arguments after done => ?_, fun front name back named found plain => ⟨?_, ?_⟩,
    fun arguments after done => ?_⟩
  · obtain ⟨-, lines, kept, rolled, -, rfl⟩ := (run_roll_eq_ok_iff loaded).1 done
    exact ⟨lines, rolled, rfl⟩
  · intro after done
    obtain ⟨planned, lines, kept, rolled, keeping, rfl⟩ := (run_roll_eq_ok_iff loaded).1 done
    obtain ⟨above, below, front, rfl, replaced⟩ := rollArguments_of_alias found plain rolled
    refine ⟨above, below, front, rfl, (run_roll_eq_ok_iff loaded).2 ⟨?_, above ++ below, kept, ?_⟩⟩
    · rw [PlannedRoll.exists_plan_iff, AliasStore.texts_of_alias found plain]
      exact PlannedRoll.exists_plan_iff.1 planned
    · rw [replaced]
      exact ⟨rfl, keeping, rfl⟩
  · exact run_average_congr loaded (AliasStore.texts_of_alias found plain front back).symm
  · obtain ⟨rows, width, lines, keys, averaged, table, rfl⟩ := table_of_run_average loaded done
    exact ⟨rows, width, lines, keys, averaged, table, rfl⟩

/-- A workspace with an alias that has a comment. -/
def armoury : Workspace Script where
  tree :=
    { entries := .ofList [(["home"], .directory), (["home", "dice"], .directory),
        (["home", "dice", ".roll"], .file
          ("\x7b\"sword\": \x7b\"expressions\": [\"d8+5\", \"2d8\"], " ++
            "\"comment\": \"to hit\"\x7d\x7d").toUTF8)]
      workingDirectory := [] }
  source := .ofList [4, 7, 6, 1]

/-- The sword is the only alias among its expressions. -/
theorem exists_load_armoury : ∃ store,
    (AliasStore.load armoury.tree unset.aliasPath false).outcome = .ok store ∧
      store.get? "sword" = some ⟨["d8+5", "2d8"], some "to hit"⟩ ∧
      (∀ text ∈ ["d8+5", "2d8"], store.get? text = none) ∧
      store.texts ["d8", "sword", "2d8"] = ["d8", "d8+5", "2d8", "2d8"] ∧
      (rollArguments none armoury.source store ["d8"]).lines.toOption = some ["4  d8  4"] := by
  have facts :
      ((AliasStore.load armoury.tree unset.aliasPath false).outcome.toOption.map fun store =>
        (["sword", "d8+5", "2d8"].map store.get?, store.texts ["d8", "sword", "2d8"],
          (rollArguments none armoury.source store ["d8"]).lines.toOption)) =
      some ([some ⟨["d8+5", "2d8"], some "to hit"⟩, none, none], ["d8", "d8+5", "2d8", "2d8"],
        some ["4  d8  4"]) := by
    decide +kernel
  cases loaded : (AliasStore.load armoury.tree unset.aliasPath false).outcome with
  | error fault =>
    rw [loaded] at facts
    cases facts
  | ok store =>
    rw [loaded] at facts
    obtain ⟨known, others⟩ := Prod.ext_iff.1 (Option.some.inj facts)
    obtain ⟨texts, first⟩ := Prod.ext_iff.1 others
    obtain ⟨found, others⟩ := List.cons.inj known
    obtain ⟨attack, others⟩ := List.cons.inj others
    obtain ⟨damage, -⟩ := List.cons.inj others
    exact ⟨store, rfl, found, List.forall_mem_cons.2 ⟨attack, List.forall_mem_singleton.2 damage⟩,
      texts, first⟩

/-- The sword is rolled by its name and by its expressions. Among the averages the text that is
asked for a second time has no second row. -/
theorem roll_shows_arguments_in_turn_of_sword :
    ∃ after averaged : Workspace Script,
      (roll unset ⟨2024, 1, 1, 0, 0⟩ none ["d8", "sword"] false).run.run armoury = (.ok (), after) ∧
      after.shown = ["7  2d8  6 1", "12  d8+5  7  (+5)", "# sword  to hit", "4  d8  4"] ∧
      (roll unset ⟨2024, 1, 1, 0, 0⟩ none ["d8", "d8+5", "2d8"] false).run.run armoury =
        (.ok (), { after with shown := ["7  2d8  6 1", "12  d8+5  7  (+5)", "4  d8  4"] }) ∧
      (roll unset ⟨2024, 1, 1, 0, 0⟩ none ["d8", "sword", "2d8"] true).run.run armoury =
        (.ok (), averaged) ∧
      averaged.shown = ["2d8   9.00", "d8+5  9.50", "d8    4.50"] ∧
      ∃ rows width lines, rows.map Prod.fst = ["d8", "d8+5", "2d8"] ∧ Tabulates rows width lines ∧
        averaged.shown = lines.reverse := by
  have rolled : Prod.map id Workspace.shown
      ((roll unset ⟨2024, 1, 1, 0, 0⟩ none ["d8", "sword"] false).run.run armoury) =
        (.ok (), ["7  2d8  6 1", "12  d8+5  7  (+5)", "# sword  to hit", "4  d8  4"]) := by
    decide +kernel
  have tabled : Prod.map id Workspace.shown
      ((roll unset ⟨2024, 1, 1, 0, 0⟩ none ["d8", "sword", "2d8"] true).run.run armoury) =
        (.ok (), ["2d8   9.00", "d8+5  9.50", "d8    4.50"]) := by
    decide +kernel
  rcases done : (roll unset ⟨2024, 1, 1, 0, 0⟩ none ["d8", "sword"] false).run.run armoury with
    ⟨result, after⟩
  rcases done' :
      (roll unset ⟨2024, 1, 1, 0, 0⟩ none ["d8", "sword", "2d8"] true).run.run armoury with
    ⟨result', averaged⟩
  rw [done] at rolled
  rw [done'] at tabled
  obtain ⟨success, shown⟩ := Prod.mk.inj rolled
  obtain ⟨success', shown'⟩ := Prod.mk.inj tabled
  obtain rfl : result = .ok () := success
  obtain rfl : result' = .ok () := success'
  obtain ⟨store, loaded, found, plain, texts, first⟩ := exists_load_armoury
  obtain ⟨-, unfolds, averages⟩ :=
    roll_shows_arguments_in_turn loaded ⟨2024, 1, 1, 0, 0⟩ none
  obtain ⟨above, below, front, same, replaced⟩ :=
    (unfolds ["d8"] "sword" [] ⟨["d8+5", "2d8"], some "to hit"⟩ found plain).1 after done
  obtain ⟨rows, width, lines, keys, -, table, listed⟩ :=
    averages ["d8", "sword", "2d8"] averaged done'
  rw [front] at first
  obtain rfl : above = ["4  d8  4"] := Option.some.inj first
  -- the lines below the heading are those that were shown last
  have reversed := congrArg List.reverse (shown.symm.trans same)
  rw [List.reverse_append, List.reverse_reverse] at reversed
  obtain ⟨-, reversed⟩ := List.cons.inj reversed
  obtain ⟨-, reversed⟩ := List.cons.inj reversed
  obtain rfl : ["12  d8+5  7  (+5)", "7  2d8  6 1"] = below := reversed
  refine ⟨after, averaged, rfl, shown, replaced, rfl, shown', rows, width, lines, ?_, table, ?_⟩
  · rw [keys, texts]
    decide
  · rw [listed]
    exact List.append_nil _

end DiceTray.Session
