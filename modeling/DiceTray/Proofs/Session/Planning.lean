import DiceTray.Proofs.Plan.Texts
import DiceTray.Proofs.Session.Record

/-!
# Planning before rolling

A roll plans all of its texts before it does anything else. Where one of them cannot be rolled, the
roll fails with the fault of the first of them, and nothing was shown, drawn or written.
-/

namespace DiceTray.Session

open Activity

variable {σ : Type} [RandomSource σ] {settings : Settings} {moment : Moment} {seed : Option Int}
  {arguments : List String} {average : Bool} {store : AliasStore} {before : Workspace σ}

/-- The workspace in which the aliases for a roll are loaded: only the journal is longer. -/
def loading (settings : Settings) (before : Workspace σ) : Workspace σ :=
  { before with
    journal := before.journal ++ (AliasStore.load before.tree settings.aliasPath false).journal }

/-- A roll that cannot be planned has done nothing but load the aliases. -/
theorem run_roll_of_fault {fault : Fault}
    (loaded : (AliasStore.load before.tree settings.aliasPath false).outcome = .ok store)
    (unplanned : PlannedRoll.ofArguments store 0 arguments = .error fault) :
    (roll settings moment seed arguments average : Activity σ Unit).run.run before =
      (.error fault, loading settings before) := by
  rw [roll, run_bind, run_loadStore, loaded]
  dsimp only
  rw [run_bind, run_result, unplanned]
  rfl

/-- A roll goes on with its plan. -/
theorem run_roll_of_plan {plan : List PlannedRoll}
    (loaded : (AliasStore.load before.tree settings.aliasPath false).outcome = .ok store)
    (planned : PlannedRoll.ofArguments store 0 arguments = .ok plan) :
    (roll settings moment seed arguments false : Activity σ Unit).run.run before =
      (rollPlan settings moment seed store plan : Activity σ Unit).run.run
        (loading settings before) := by
  rw [roll, run_bind, run_loadStore, loaded]
  dsimp only
  rw [run_bind, run_result, planned]
  rfl

/-- The averages of a plan are shown when all of them can be computed. -/
theorem run_average_of_plan {plan : List PlannedRoll}
    (loaded : (AliasStore.load before.tree settings.aliasPath false).outcome = .ok store)
    (planned : PlannedRoll.ofArguments store 0 arguments = .ok plan) :
    (roll settings moment seed arguments true : Activity σ Unit).run.run before =
      match PlannedRoll.averages .empty plan with
      | .error error => (.error (.number error), loading settings before)
      | .ok rows => (.ok (), { loading settings before with
          shown := (averageLines rows.entries).reverse ++ before.shown }) := by
  rw [roll, run_bind, run_loadStore, loaded]
  dsimp only
  rw [run_bind, run_result, planned]
  dsimp only
  rw [if_pos rfl, run_bind, run_result]
  cases PlannedRoll.averages .empty plan <;> rfl

/-- Nothing is rolled on bad input. Whatever aliases there are, when some of the texts that are
asked for is no expression or is beyond the limits, planning fails with the fault of the first of
these, in the order of the arguments and of the expressions of an alias; and a roll, also one that
asks for averages, fails with that fault, having shown nothing, asked the source for nothing and
changed no file. Otherwise the plan holds each text as often as it is asked for, in that order, with
the expression that it is read as. -/
theorem roll_stops_at_first_fault (store : AliasStore) (arguments : List String) :
    (∀ fault, (store.texts arguments).findSome? Expression.fault? = some fault →
      PlannedRoll.ofArguments store 0 arguments = .error fault ∧
      ∀ (settings : Settings) (before : Workspace σ),
        (AliasStore.load before.tree settings.aliasPath false).outcome = .ok store →
        ∀ moment seed average, ∃ journal,
          (roll settings moment seed arguments average : Activity σ Unit).run.run before =
            (.error fault, { before with journal })) ∧
    ((store.texts arguments).findSome? Expression.fault? = none →
      ∃ plan, PlannedRoll.ofArguments store 0 arguments = .ok plan ∧
        plan.map PlannedRoll.item = PlannedRoll.items store 0 arguments ∧
        ∀ planned ∈ plan, Expression.parse planned.text = .ok planned.expression) := by
  constructor
  · intro fault first
    have unplanned : PlannedRoll.ofArguments store 0 arguments = .error fault :=
      PlannedRoll.ofArguments_of_fault first
    refine ⟨unplanned, fun settings before loaded moment seed average => ?_⟩
    exact ⟨_, run_roll_of_fault loaded unplanned⟩
  · intro fit
    obtain ⟨plan, planned⟩ := PlannedRoll.exists_plan 0 fit
    exact ⟨plan, planned, PlannedRoll.map_item_of_ofArguments planned⟩

/-- A workspace with an alias of which the second expression has too many dice. -/
def crowded : Workspace Script where
  tree :=
    { entries := .ofList [(["home"], .directory), (["home", "dice"], .directory),
        (["home", "dice", ".roll"],
          .file "\x7b\"horde\": \x7b\"expressions\": [\"d6\", \"9d4*99999\"]\x7d\x7d".toUTF8)]
      workingDirectory := [] }
  source := .ofList [3]

/-- The alias is met before the last argument, which is no expression. -/
theorem roll_stops_at_first_fault_of_alias :
    ∃ journal, (roll unset ⟨2024, 1, 1, 0, 0⟩ none ["2d8", "horde", "d"] false).run.run crowded =
      (.error (.limit (.manyDice "9d4*99999")), { crowded with journal }) := by
  have found :
      ((AliasStore.load crowded.tree unset.aliasPath false).outcome.toOption.map fun store =>
        (store.texts ["2d8", "horde", "d"]).findSome? Expression.fault?) =
      some (some (.limit (.manyDice "9d4*99999"))) := by decide +kernel
  cases loaded : (AliasStore.load crowded.tree unset.aliasPath false).outcome with
  | error fault =>
    rw [loaded] at found
    cases found
  | ok store =>
    rw [loaded] at found
    exact ((roll_stops_at_first_fault store _).1 _ (Option.some.inj found)).2 unset crowded loaded
      _ none false

end DiceTray.Session
