import DiceTray.Proofs.Line.Highlights
import DiceTray.Proofs.Plan.Limits
import DiceTray.Proofs.Session.Unfolding
import DiceTray.Proofs.Source.Reliable

/-!
# Rolls that complete

A plan is carried out to its end from every source that keeps to the bounds, but for one thing: the
limits are about dice, and a modifier may be so large that a total is too long to be written, or
that it is no double. These are the plans that do not complete, and nothing else goes wrong.
-/

namespace DiceTray

/-- All totals of an expression may be written, for the least and the greatest may. -/
def Expression.Showable (expression : Expression) : Prop :=
  DiceTray.Writable (expression.count * 1 + expression.modifier) ∧
    DiceTray.Writable (expression.count * expression.sides + expression.modifier)

instance (expression : Expression) : Decidable expression.Showable :=
  inferInstanceAs (Decidable (_ ∧ _))

/-- What lies between integers that may be written may be written. -/
theorem writable_of_between {low high n : Int} (least : Writable low) (most : Writable high)
    (above : low ≤ n) (below : n ≤ high) : Writable n := by
  rw [writable_iff] at least most ⊢
  omega

/-- All numbers that a legible recorder has drawn may be written. -/
theorem Recorder.legible_draws {σ : Type} {recorder : Recorder σ} (legible : recorder.Legible) :
    ∀ draw ∈ recorder.draws, Writable draw.1 ∧ ∀ value ∈ draw.2, Writable value := by
  refine List.forall_mem_map.2 fun (sides, values) member => ?_
  obtain ⟨writable, each⟩ := legible sides values ((recorder.kept.mem_entries_iff _ _).1 member)
  exact ⟨writable, fun value among => each value (List.mem_reverse.1 among)⟩

namespace PlannedRoll

/-- The dice that a plan asks for. -/
def Dice (plan : List PlannedRoll) (sides : Int) : Prop :=
  ∃ planned ∈ plan, planned.expression.sides = sides

/-- What rolling a plan comes to: it succeeds, or a total is too long to be written. -/
def ComesTo (plan : List PlannedRoll) (result : Except Fault Unit) : Prop :=
  result = .ok () ∨ result = .error (.number .tooLongToWrite) ∧
    ¬ ∀ planned ∈ plan, planned.expression.Showable

end PlannedRoll

namespace Performance

variable {σ : Type} [RandomSource σ] {good : σ → Prop} {dice : Int → Prop} {store : AliasStore}

/-- The lines of results with dice that may be written can be shown. -/
theorem exists_showLines {results : List Result}
    (writable : ∀ result ∈ results, ∀ value ∈ result.rolls, Writable value)
    (color : Role → Option String) (shown : List String) (width : Nat) (sides : Int)
    (text : String) :
    ∃ final, showLines color shown (results.map (Result.line width sides text)) =
      ⟨final, .ok ()⟩ := by
  induction results generalizing shown with
  | nil => exact ⟨shown, rfl⟩
  | cons result rest inductionHypothesis =>
    obtain ⟨here, later⟩ := List.forall_mem_cons.1 writable
    have dice : ∀ die ∈ (result.line width sides text).dice, Writable die.value :=
      List.forall_mem_map.2 here
    rw [List.map_cons, showLines, Line.pieces_of_writable dice color]
    exact inductionHypothesis later _

/-- From a good state a planned roll comes to results with a side on each die. -/
theorem exists_results (upheld : Upholds good dice)
    (writable : ∀ sides, dice sides → Writable sides)
    {expression : Expression} (asked : dice expression.sides) {recorder : Recorder σ}
    (holds : good recorder.inner ∧ recorder.Legible) :
    ∃ results after, expression.roll recorder = (.ok results, after) ∧
      (good after.inner ∧ after.Legible) ∧
      ∀ result ∈ results,
        expression.Gives (fun value => 1 ≤ value ∧ value ≤ expression.sides) result := by
  obtain ⟨results, after, rolled, still⟩ :=
    completes_roll (Recorder.completes_draw upheld writable asked) recorder holds
  have given := Expression.gives_of_roll
    (fun _ _ _ drawn => (Recorder.within_of_draw drawn).2) rolled
  exact ⟨results, after, rolled, still, given.2⟩

/-- A performance from a good state ends well, unless a total is too long to be written. -/
theorem ofPlan_cases {plan : List PlannedRoll} (upheld : Upholds good dice)
    (plannable : ∀ planned ∈ plan, planned.expression.Plannable)
    (asked : ∀ planned ∈ plan, dice planned.expression.sides)
    (writable : ∀ sides, dice sides → Writable sides) (previous : Option Nat)
    (shown : List String) {recorder : Recorder σ} (holds : good recorder.inner ∧ recorder.Legible) :
    ∃ performance after, ofPlan store previous shown plan recorder = (performance, after) ∧
      after.Legible ∧ PlannedRoll.ComesTo plan performance.ending := by
  induction plan generalizing previous shown recorder with
  | nil => exact ⟨⟨shown, .ok ()⟩, recorder, rfl, holds.2, .inl rfl⟩
  | cons planned rest inductionHypothesis =>
    obtain ⟨fit, others⟩ := List.forall_mem_cons.1 plannable
    obtain ⟨here, later⟩ := List.forall_mem_cons.1 asked
    obtain ⟨results, middle, rolled, still, gives⟩ := exists_results upheld writable here holds
    have counted : 0 ≤ planned.expression.count := by
      have positive := fit.sensible.1
      omega
    have modifiers : ∀ result ∈ results, Writable result.modifier := fun result member => by
      rw [(gives result member).modifier_eq]
      exact fit.writable.2.2.1
    rw [ofPlan, lines, rolled]
    dsimp only
    rcases Line.ofResults_cases modifiers planned.expression.sides planned.text with
      ⟨-, width, made⟩ | ⟨long, refused⟩
    · have values : ∀ result ∈ results, ∀ value ∈ result.rolls, Writable value := by
        intro result member value among
        obtain ⟨rolls, rfl, -, within⟩ := gives result member
        have between := within value among
        exact writable_of_between Expression.writable_one (writable _ here) between.1 between.2
      obtain ⟨reached, displayed⟩ := exists_showLines values (fun role => some (store.color role))
        (headings store previous planned ++ shown) width planned.expression.sides planned.text
      have lined := congrArg (Except.mapError Fault.number) made
      rw [lined]
      dsimp only [Except.mapError]
      rw [displayed]
      obtain ⟨performance, after, following, legible, ended⟩ :=
        inductionHypothesis others later (some planned.place) reached still
      refine ⟨performance, after, following, legible, ended.imp_right fun failed => ?_⟩
      exact ⟨failed.1, fun all => failed.2 (List.forall_mem_cons.1 all).2⟩
    · rw [refused]
      refine ⟨_, middle, rfl, still.2, .inr ⟨rfl, fun all => long fun result member => ?_⟩⟩
      obtain ⟨least, most⟩ := (List.forall_mem_cons.1 all).1
      have between := (gives result member).total_bounds counted
      exact writable_of_between least most between.1 between.2

/-- When a plan was rolled with the lowest or with the highest sides and ended well, its totals with
these may be written. -/
theorem writable_of_ofPlan {highest : Bool} {plan : List PlannedRoll} {previous : Option Nat}
    {shown final : List String} {recorder after : Recorder (Extreme highest)}
    (plannable : ∀ planned ∈ plan, planned.expression.Plannable)
    (done : ofPlan store previous shown plan recorder = (⟨final, .ok ()⟩, after)) :
    ∀ planned ∈ plan, Writable (planned.expression.count *
      (if highest then planned.expression.sides else 1) + planned.expression.modifier) := by
  induction plan generalizing previous shown recorder with
  | nil => nofun
  | cons planned rest inductionHypothesis =>
    obtain ⟨fit, others⟩ := List.forall_mem_cons.1 plannable
    obtain ⟨made, middle, reached, performed, -, following⟩ := steps_of_ofPlan done
    obtain ⟨results, rolled, lined⟩ := roll_of_lines performed
    refine List.forall_mem_cons.2 ⟨?_, inductionHypothesis others following⟩
    have same : ∀ (source : Recorder (Extreme highest)) value after,
        draw source 1 planned.expression.sides = (.ok value, after) →
          (if highest then planned.expression.sides else 1) ≤ value ∧
            value ≤ if highest then planned.expression.sides else 1 := by
      intro source value after drawn
      have given := (Recorder.within_of_draw drawn).1
      rw [Except.ok.inj given]
      exact ⟨Int.le_refl value, Int.le_refl value⟩
    obtain ⟨rounds, gives⟩ := Expression.gives_of_roll same rolled
    obtain ⟨⟨counted, -, repeated⟩, written, -, -⟩ := fit
    have modifiers : ∀ result ∈ results, Writable result.modifier := fun result member => by
      rw [(gives result member).modifier_eq]
      exact written.2.2.1
    rcases Line.ofResults_cases modifiers planned.expression.sides planned.text with
      ⟨totals, -⟩ | ⟨-, refused⟩
    · obtain ⟨result, member⟩ := List.exists_mem_of_length_pos (l := results) (by omega)
      have between := (gives result member).total_bounds (by omega)
      rw [Int.le_antisymm between.1 between.2]
      exact totals result member
    · cases refused.symm.trans lined

end Performance

namespace Session

open Activity

variable {σ : Type} {settings : Settings} {moment : Moment} {performance : Performance}

/-- A performance whose draws may be written is concluded as it ended. -/
theorem result_conclude {draws : Draws}
    (legible : ∀ draw ∈ draws, Writable draw.1 ∧ ∀ value ∈ draw.2, Writable value)
    (workspace : Workspace σ) :
    ((conclude settings moment performance draws : Activity σ Unit).run.run workspace).1 =
      performance.ending := by
  obtain ⟨shown, fault | ⟨⟩⟩ := performance
  · rfl
  · have concluded : (conclude settings moment ⟨shown, .ok ()⟩ draws : Activity σ Unit).run.run
          workspace =
        (keep settings moment draws : Activity σ Unit).run.run
          { workspace with shown := shown ++ workspace.shown } := rfl
    rw [concluded, keep]
    split
    · rcases keepDraws_cases settings moment draws
        { workspace with shown := shown ++ workspace.shown } with
        ⟨error, _, failed, -⟩ | ⟨_, -, ran⟩ | ⟨_, _, -, ran⟩
      · obtain ⟨written, made⟩ := History.exists_lines legible
        cases made.symm.trans failed
      · rw [ran]
      · rw [ran]
    · rfl

variable {seed : Option Int} {store : AliasStore} {arguments : List String}
  {plan : List PlannedRoll}

theorem positive_of_dice (plannable : ∀ planned ∈ plan, planned.expression.Plannable) :
    ∀ sides, PlannedRoll.Dice plan sides → 1 ≤ sides := by
  rintro _ ⟨planned, member, rfl⟩
  have enough := (plannable planned member).sensible.2.1
  omega

/-- A performance from a reliable source is concluded as it ended, which is well unless a total is
too long to be written. -/
theorem exists_ofPlan {τ : Type} [RandomSource τ] {source : τ}
    (plannable : ∀ planned ∈ plan, planned.expression.Plannable)
    (reliable : Reliable (PlannedRoll.Dice plan) source) :
    ∃ performance recorder,
      Performance.ofPlan store none [] plan (Recorder.start source) = (performance, recorder) ∧
      (∀ {σ : Type} settings moment (workspace : Workspace σ),
        ((conclude settings moment performance recorder.draws : Activity σ Unit).run.run
          workspace).1 = performance.ending) ∧
      PlannedRoll.ComesTo plan performance.ending := by
  obtain ⟨good, holds, upheld⟩ := reliable
  have asked : ∀ planned ∈ plan, PlannedRoll.Dice plan planned.expression.sides :=
    fun planned member => ⟨planned, member, rfl⟩
  have writable : ∀ sides, PlannedRoll.Dice plan sides → Writable sides := by
    rintro _ ⟨planned, member, rfl⟩
    exact (plannable planned member).writable.2.1
  have begun : good (Recorder.start source).inner ∧ (Recorder.start source).Legible :=
    ⟨holds, Recorder.legible_start source⟩
  obtain ⟨performance, recorder, performed, legible, ended⟩ :=
    Performance.ofPlan_cases upheld plannable asked writable none [] begun
  exact ⟨performance, recorder, performed,
    fun _ _ => result_conclude (Recorder.legible_draws legible), ended⟩

variable [RandomSource σ] {before : Workspace σ}

/-- What is rolled from the source of the system ends as its performance. -/
theorem exists_ofPlan_of_rollPlan (settings : Settings) (moment : Moment) (before : Workspace σ)
    (plannable : ∀ planned ∈ plan, planned.expression.Plannable)
    (reliable : Reliable (PlannedRoll.Dice plan) before.source) :
    ∃ performance recorder,
      Performance.ofPlan store none [] plan (Recorder.start before.source) =
        (performance, recorder) ∧
      ((rollPlan settings moment none store plan : Activity σ Unit).run.run before).1 =
        performance.ending ∧
      PlannedRoll.ComesTo plan performance.ending := by
  obtain ⟨performance, recorder, performed, concluded, ended⟩ := exists_ofPlan plannable reliable
  refine ⟨performance, recorder, performed, ?_, ended⟩
  rw [rollPlan, run_get_bind, performed]
  exact concluded settings moment _

/-- From a reliable source or a seed a plan is rolled to its end, unless a total is too long to be
written. -/
theorem result_rollPlan (settings : Settings) (moment : Moment) (seed : Option Int)
    (store : AliasStore) (before : Workspace σ)
    (plannable : ∀ planned ∈ plan, planned.expression.Plannable)
    (reliable : Reliable (PlannedRoll.Dice plan) before.source) :
    PlannedRoll.ComesTo plan
      ((rollPlan settings moment seed store plan : Activity σ Unit).run.run before).1 := by
  cases seed with
  | none =>
    obtain ⟨performance, recorder, -, ended, cases⟩ :=
      exists_ofPlan_of_rollPlan settings moment before plannable reliable
    rwa [ended]
  | some seed =>
    obtain ⟨performance, recorder, performed, concluded, cases⟩ :=
      exists_ofPlan plannable (reliable_seeded (positive_of_dice plannable) (Seeded.ofSeed seed))
    rw [rollPlan, performed]
    dsimp only
    rwa [concluded]

/-- How a roll ends. -/
def rollEnding (settings : Settings) (moment : Moment) (seed : Option Int)
    (arguments : List String) (average : Bool) (before : Workspace σ) : Ending :=
  match (roll settings moment seed arguments average : Activity σ Unit).run.run before with
  | (result, after) => (Outcome.ofActivity .roll settings.level result after).ending

variable {average : Bool}

/-- The exit code of a roll is zero exactly when the roll succeeds. -/
theorem code_rollEnding_iff :
    (rollEnding settings moment seed arguments average before).code? = some 0 ↔
      ((roll settings moment seed arguments average : Activity σ Unit).run.run before).1 =
        .ok () := by
  rw [rollEnding]
  rcases (roll settings moment seed arguments average : Activity σ Unit).run.run before with
    ⟨fault | ⟨⟩, after⟩
  · have failed : (Ending.ofFault fault).code? ≠ some 0 := by
      rw [Ending.ofFault]
      split <;> nofun
    exact iff_of_false failed nofun
  · exact iff_of_true rfl rfl

/-- A fault of a number is not caught. -/
theorem rollEnding_of_number {error : NumberError}
    (failed : ((roll settings moment seed arguments average : Activity σ Unit).run.run before).1 =
      .error (.number error)) :
    rollEnding settings moment seed arguments average before = .escaped (.number error) := by
  rw [rollEnding]
  rcases result : (roll settings moment seed arguments average : Activity σ Unit).run.run before
    with ⟨outcome, after⟩
  rw [result] at failed
  obtain rfl : outcome = .error (.number error) := failed
  rfl

section Planned

variable (loaded : (AliasStore.load before.tree settings.aliasPath false).outcome = .ok store)
  (planned : PlannedRoll.ofArguments store 0 arguments = .ok plan)

include loaded planned

/-- From a reliable source a planned roll ends well, unless a total is too long to be written. -/
theorem rollEnding_cases (reliable : Reliable (PlannedRoll.Dice plan) before.source) :
    (rollEnding settings moment seed arguments false before).code? = some 0 ∨
      rollEnding settings moment seed arguments false before =
          .escaped (.number .tooLongToWrite) ∧
        ¬ ∀ planned ∈ plan, planned.expression.Showable := by
  have plannable := PlannedRoll.plannable_of_ofArguments planned
  have ended := result_rollPlan settings moment seed store (loading settings before) plannable
    reliable
  rw [← run_roll_of_plan loaded planned] at ended
  exact ended.imp code_rollEnding_iff.2 (And.imp_left rollEnding_of_number)

/-- The averages of what is planned are shown unless a modifier is too large. -/
theorem rollEnding_average_cases :
    ((rollEnding settings moment seed arguments true before).code? = some 0 ∧
        ∀ planned ∈ plan, planned.expression.modifier.natAbs < Binary64.integersEnd) ∨
      (rollEnding settings moment seed arguments true before =
          .escaped (.number .integerTooLarge) ∧
        ¬ ∀ planned ∈ plan, planned.expression.modifier.natAbs < Binary64.integersEnd) := by
  have ran : (roll settings moment seed arguments true : Activity σ Unit).run.run before = _ :=
    run_average_of_plan loaded planned
  have plannable := PlannedRoll.plannable_of_ofArguments planned
  rcases PlannedRoll.averages_cases plannable .empty with ⟨within, rows, found⟩ | ⟨beyond, refused⟩
  · rw [found] at ran
    exact .inl ⟨code_rollEnding_iff.2 (congrArg Prod.fst ran), within⟩
  · rw [refused] at ran
    exact .inr ⟨rollEnding_of_number (congrArg Prod.fst ran), beyond⟩

end Planned

/-- A roll of the lowest or of the highest sides ends well only where its totals may be written. -/
theorem writable_of_rollEnding {highest : Bool} (before : Workspace (Extreme highest))
    (loaded : (AliasStore.load before.tree settings.aliasPath false).outcome = .ok store)
    (planned : PlannedRoll.ofArguments store 0 arguments = .ok plan)
    (completed : (rollEnding settings moment none arguments false before).code? = some 0) :
    ∀ planned ∈ plan, Writable (planned.expression.count *
      (if highest then planned.expression.sides else 1) + planned.expression.modifier) := by
  have plannable := PlannedRoll.plannable_of_ofArguments planned
  rw [code_rollEnding_iff, run_roll_of_plan loaded planned] at completed
  obtain ⟨performance, recorder, performed, ended, -⟩ :=
    exists_ofPlan_of_rollPlan settings moment (loading settings before) plannable
      (reliable_extreme (positive_of_dice plannable) before.source)
  rw [ended] at completed
  obtain ⟨final, ending⟩ := performance
  cases completed
  exact Performance.writable_of_ofPlan plannable performed

/-- Planning is sufficient but for the size of numbers. Whatever is planned, from every source that
keeps to the sides of the dice and from every seed, a roll ends with exit code zero, or else a total
is too long to be written and nothing catches that. It ends with exit code zero from all these
sources exactly when for each expression the least and the greatest total may be written. Averages
are shown, with exit code zero, exactly when no modifier is too large for a double, and else that is
not caught. -/
theorem planned_rolls_complete {tree : Files.Tree} {plan : List PlannedRoll}
    (loaded : (AliasStore.load tree settings.aliasPath false).outcome = .ok store)
    (planned : PlannedRoll.ofArguments store 0 arguments = .ok plan) :
    (∀ (σ : Type) [RandomSource σ] (before : Workspace σ), before.tree = tree →
      Reliable (PlannedRoll.Dice plan) before.source → ∀ moment seed,
        (rollEnding settings moment seed arguments false before).code? = some 0 ∨
        rollEnding settings moment seed arguments false before =
          .escaped (.number .tooLongToWrite)) ∧
    ((∀ (σ : Type) [RandomSource σ] (before : Workspace σ), before.tree = tree →
      Reliable (PlannedRoll.Dice plan) before.source → ∀ moment seed,
        (rollEnding settings moment seed arguments false before).code? = some 0) ↔
      ∀ planned ∈ plan, planned.expression.Showable) ∧
    ∀ (σ : Type) [RandomSource σ] (before : Workspace σ), before.tree = tree → ∀ moment seed,
      ((rollEnding settings moment seed arguments true before).code? = some 0 ∧
        ∀ planned ∈ plan, planned.expression.modifier.natAbs < Binary64.integersEnd) ∨
      (rollEnding settings moment seed arguments true before =
          .escaped (.number .integerTooLarge) ∧
        ¬ ∀ planned ∈ plan, planned.expression.modifier.natAbs < Binary64.integersEnd) := by
  refine ⟨?_, ⟨fun completes => ?_, ?_⟩, ?_⟩
  · rintro σ _ before rfl reliable moment seed
    exact (rollEnding_cases loaded planned reliable).imp_right And.left
  · have plannable := PlannedRoll.plannable_of_ofArguments planned
    have totals (highest : Bool) := by
      let before : Workspace (Extreme highest) := ⟨tree, ⟨⟩, [], []⟩
      have reliable := reliable_extreme (positive_of_dice plannable) before.source
      exact writable_of_rollEnding before loaded planned
        (completes _ before rfl reliable ⟨1970, 1, 1, 0, 0⟩ none)
    exact fun planned member => ⟨totals false planned member, totals true planned member⟩
  · rintro showable σ _ before rfl reliable moment seed
    exact (rollEnding_cases loaded planned reliable).resolve_right fun failed => failed.2 showable
  · rintro σ _ before rfl moment seed
    exact rollEnding_average_cases loaded planned

/-- A workspace with the aliases of the armoury, where every die shows a four. -/
def fours : Workspace Constant := ⟨armoury.tree, ⟨4⟩, [], []⟩

/-- The sword is rolled to the end, and so are its averages shown. -/
theorem planned_rolls_complete_of_sword :
    (rollEnding unset ⟨2024, 1, 1, 0, 0⟩ none ["d8", "sword"] false fours).code? = some 0 ∧
      (rollEnding unset ⟨2024, 1, 1, 0, 0⟩ none ["d8", "sword"] true fours).code? = some 0 := by
  let plan : List PlannedRoll :=
    [⟨0, none, "d8", ⟨1, 8, false, 0, 1⟩⟩, ⟨1, some "sword", "d8+5", ⟨1, 8, false, 5, 1⟩⟩,
      ⟨1, some "sword", "2d8", ⟨2, 8, false, 0, 1⟩⟩]
  have arranged : ((AliasStore.load armoury.tree unset.aliasPath false).outcome >>= fun store =>
      PlannedRoll.ofArguments store 0 ["d8", "sword"]) = .ok plan := by decide +kernel
  obtain ⟨store, loaded, planned⟩ := bind_eq_ok_iff.1 arranged
  obtain ⟨-, rolls, averages⟩ := planned_rolls_complete loaded planned
  have eight : ∀ planned ∈ plan, planned.expression.sides = 8 := by decide
  have reliable : Reliable (PlannedRoll.Dice plan) fours.source := by
    refine ⟨fun source => source = ⟨4⟩, rfl, ?_⟩
    rintro source rfl sides ⟨planned, member, rfl⟩
    rw [eight planned member]
    exact ⟨4, ⟨4⟩, rfl, by decide, rfl⟩
  refine ⟨rolls.2 (by decide) Constant fours rfl reliable _ none, ?_⟩
  rcases averages Constant fours rfl ⟨2024, 1, 1, 0, 0⟩ none with ⟨shown, -⟩ | ⟨-, beyond⟩
  · exact shown
  · exact absurd (by decide +kernel) beyond

/-- A plan is made and the source keeps to the sides of its dice, and a fault escapes all the same.
-/
def FallsShort (settings : Settings) (arguments : List String) (average : Bool)
    (before : Workspace σ) (fault : Fault) : Prop :=
  ∃ store plan, (AliasStore.load before.tree settings.aliasPath false).outcome = .ok store ∧
    PlannedRoll.ofArguments store 0 arguments = .ok plan ∧
    Reliable (PlannedRoll.Dice plan) before.source ∧
    ∀ moment, rollEnding settings moment none arguments average before = .escaped fault

/-- A workspace without files, where every die shows its highest side. -/
def lucky : Workspace (Extreme true) := ⟨⟨.empty, []⟩, ⟨⟩, [], []⟩

/-- The expression `1d6` with a modifier. -/
def burdened (modifier : Int) : Expression := ⟨1, 6, false, modifier, 1⟩

/-- Where a roll of it is planned the source keeps to the sides of its die. -/
theorem fallsShort_of_burdened {modifier : Int} {average : Bool} {fault : Fault}
    (writable : Writable modifier)
    (escapes : ∀ store text moment,
      (AliasStore.load lucky.tree unset.aliasPath false).outcome = .ok store →
      PlannedRoll.ofArguments store 0 [text] = .ok [⟨0, none, text, burdened modifier⟩] →
      rollEnding unset moment none [text] average lucky = .escaped fault) :
    ∃ text, (burdened modifier).canonical = .ok text ∧
      FallsShort unset [text] average lucky fault := by
  have six : Writable 6 := by decide
  have plannable : (burdened modifier).Plannable := {
    sensible := ⟨Int.le_refl 1, (by decide : (2 : Int) ≤ 6), Int.le_refl 1⟩
    writable := ⟨Expression.writable_one, six, writable, Expression.writable_one⟩
    sides_le := (by decide : (6 : Int) ≤ mostSides)
    dice_le := (by decide : (1 * 1 : Int) ≤ mostDice) }
  obtain ⟨text, written, plans⟩ := PlannedRoll.exists_plan_of_plannable plannable
  have planned := plans .empty 0 rfl
  have missing : lucky.tree.locate unset.aliasPath = .error .notFound := by decide +kernel
  have loaded := AliasStore.load_of_lost missing false
  have reliable : Reliable (PlannedRoll.Dice [⟨0, none, text, burdened modifier⟩]) lucky.source :=
    reliable_extreme (positive_of_dice (PlannedRoll.plannable_of_ofArguments planned)) _
  exact ⟨text, written, .empty, _, loaded, planned, reliable,
    fun moment => escapes _ text moment loaded planned⟩

/-- Its greatest total may be too long. -/
theorem fallsShort_of_long {modifier : Int} (writable : Writable modifier)
    (long : ¬ Writable (1 * 6 + modifier)) :
    ∃ text, (burdened modifier).canonical = .ok text ∧
      FallsShort unset [text] false lucky (.number .tooLongToWrite) := by
  refine fallsShort_of_burdened writable fun store text moment loaded planned => ?_
  have reliable := reliable_extreme
    (positive_of_dice (PlannedRoll.plannable_of_ofArguments planned)) lucky.source
  refine ((rollEnding_cases loaded planned reliable).resolve_left fun completed => ?_).1
  exact long (writable_of_rollEnding lucky loaded planned completed _ List.mem_cons_self)

/-- Its modifier may be too large for an average. -/
theorem fallsShort_of_large {modifier : Int} (writable : Writable modifier)
    (large : Binary64.integersEnd ≤ modifier.natAbs) :
    ∃ text, (burdened modifier).canonical = .ok text ∧
      FallsShort unset [text] true lucky (.number .integerTooLarge) := by
  refine fallsShort_of_burdened writable fun store text moment loaded planned => ?_
  refine ((rollEnding_average_cases loaded planned).resolve_left fun completed => ?_).1
  exact Nat.not_lt.2 large (completed.2 _ List.mem_cons_self)

/-- With a modifier of as many nines as may be written the total is too long, and a modifier of
more than three hundred digits has no average. -/
theorem burdened_rolls_fall_short :
    (∃ text, (burdened (tenTo digitLimit - 1)).canonical = .ok text ∧
      FallsShort unset [text] false lucky (.number .tooLongToWrite)) ∧
    ∃ text, (burdened (tenTo 309)).canonical = .ok text ∧
      FallsShort unset [text] true lucky (.number .integerTooLarge) := by
  have more : tenTo 309 < tenTo 310 := by decide +kernel
  have room : tenTo 310 ≤ tenTo digitLimit := tenTo_le_tenTo (by decide)
  have positive := tenTo_pos digitLimit
  have beyond : Binary64.integersEnd ≤ (tenTo 309 : Int).natAbs := by
    rw [Int.natAbs_natCast]
    decide +kernel
  have nines : Writable ((tenTo digitLimit : Int) - 1) ∧
      ¬ Writable (1 * 6 + ((tenTo digitLimit : Int) - 1)) := by
    rw [writable_iff, writable_iff]
    generalize tenTo digitLimit = bound at positive ⊢
    omega
  have short : Writable (tenTo 309 : Int) := by
    rw [writable_iff, Int.natAbs_natCast]
    exact Nat.lt_of_lt_of_le more room
  exact ⟨fallsShort_of_long nines.1 nines.2, fallsShort_of_large short beyond⟩

end Session

end DiceTray
