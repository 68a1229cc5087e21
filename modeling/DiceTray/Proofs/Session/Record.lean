import DiceTray.Proofs.History.Decoding
import DiceTray.Proofs.Session.Commands
import DiceTray.Proofs.Source.Replay

/-!
# The record of a roll

What a roll adds to the history file is all that is needed to roll again. The lines are decoded to
the values drawn for each number of sides, and the plan is rolled once more from these: every die,
modifier and total comes out as it was shown, and no value is left over.
-/

namespace DiceTray

open Files

namespace PlannedRoll

variable {σ τ : Type} [RandomSource σ] [RandomSource τ]

/-- Rolls planned expressions in order and puts the results to each of them. -/
def results : List PlannedRoll → σ → Except DrawError (List (PlannedRoll × List Result)) × σ
  | [], source => (.ok [], source)
  | planned :: rest, source =>
    match planned.expression.roll source with
    | (.error error, source) => (.error error, source)
    | (.ok rolled, source) =>
      match results rest source with
      | (.error error, source) => (.error error, source)
      | (.ok others, source) => (.ok ((planned, rolled) :: others), source)

theorem results_cons_eq_chain (planned : PlannedRoll) (rest : List PlannedRoll) :
    (results (planned :: rest) : σ → _) =
      chain planned.expression.roll fun rolled =>
        chain (results rest) fun others source => (.ok ((planned, rolled) :: others), source) := by
  funext source
  rw [results, chain]
  rcases planned.expression.roll source with ⟨error | rolled, middle⟩
  · rfl
  · dsimp only
    rw [chain]
    rcases results rest middle with ⟨error | others, after⟩ <;> rfl

theorem mirrors_results (plan : List PlannedRoll) :
    Mirrors (σ := σ) (τ := τ) (results plan) (results plan) := by
  induction plan with
  | nil => exact mirrors_value []
  | cons planned rest inductionHypothesis =>
    rw [results_cons_eq_chain, results_cons_eq_chain]
    exact planned.expression.mirrors_roll.chain fun rolled =>
      inductionHypothesis.chain fun others => mirrors_value ((planned, rolled) :: others)

end PlannedRoll

namespace Performance

/-- The texts of lines in the colours of a store. -/
def lineTexts (color : Role → Option String) (lines : List Line) :
    Except NumberError (List String) :=
  lines.mapM fun line => (line.pieces color).map piecesText

/-- The texts that are shown for the results of a plan, oldest first; `previous` is the place of the
argument before. -/
def texts (store : AliasStore) (previous : Option Nat) :
    List (PlannedRoll × List Result) → Except NumberError (List String)
  | [] => .ok []
  | (planned, rolled) :: rest => do
    let lines ← Line.ofResults planned.expression.sides planned.text rolled
    let here ← lineTexts (fun role => some (store.color role)) lines
    let later ← texts store (some planned.place) rest
    return headings store previous planned ++ here ++ later

/-- What a performance shows, oldest first, or the fault that ended it. -/
def outcome (performance : Performance) : Except Fault (List String) :=
  performance.ending.map fun _ => performance.shown.reverse

/-- Lines are shown below what was shown before, or the first fault among them ends it. -/
theorem outcome_showLines (color : Role → Option String) (shown : List String) (made : List Line) :
    (showLines color shown made).outcome =
      ((lineTexts color made).mapError Fault.number).map (shown.reverse ++ ·) := by
  induction made generalizing shown with
  | nil =>
    change Except.ok shown.reverse = Except.ok (shown.reverse ++ [])
    rw [List.append_nil]
  | cons line rest inductionHypothesis =>
    rw [showLines, lineTexts, List.mapM_cons]
    cases line.pieces color with
    | error error => rfl
    | ok pieces =>
      dsimp only
      rw [inductionHypothesis, lineTexts]
      cases List.mapM (fun line => (line.pieces color).map piecesText) rest with
      | error error => rfl
      | ok texts =>
        change Except.ok _ = Except.ok (shown.reverse ++ piecesText pieces :: texts)
        simp

theorem lineTexts_of_showLines {color : Role → Option String} {lines : List Line}
    {shown final : List String} (done : showLines color shown lines = ⟨final, .ok ()⟩) :
    ∃ texts, lineTexts color lines = .ok texts ∧ final = texts.reverse ++ shown := by
  have shows := outcome_showLines color shown lines
  rw [done] at shows
  obtain ⟨texts, written, same⟩ := map_eq_ok_iff.1 shows.symm
  have reversed : (shown.reverse ++ texts).reverse = final.reverse.reverse := congrArg _ same
  rw [List.reverse_append, List.reverse_reverse, List.reverse_reverse] at reversed
  exact ⟨texts, mapError_eq_ok_iff.1 written, reversed.symm⟩

/-- There is one heading at most. -/
theorem reverse_headings (store : AliasStore) (previous : Option Nat) (planned : PlannedRoll) :
    (headings store previous planned).reverse = headings store previous planned := by
  rw [headings]
  split
  · split <;> rfl
  · rfl

variable {σ : Type} [RandomSource σ]

theorem roll_of_lines {planned : PlannedRoll} {recorder after : Recorder σ} {made : List Line}
    (done : lines planned recorder = (.ok made, after)) :
    ∃ rolled, planned.expression.roll recorder = (.ok rolled, after) ∧
      Line.ofResults planned.expression.sides planned.text rolled = .ok made := by
  rw [lines] at done
  rcases rolling : planned.expression.roll recorder with ⟨error | rolled, middle⟩ <;>
    rw [rolling] at done
  · cases done
  · obtain ⟨lined, same⟩ := Prod.ext_iff.1 done
    cases same
    exact ⟨rolled, rfl, mapError_eq_ok_iff.1 lined⟩

/-- One step of a performance that ends well: the lines of a planned roll are shown below the
heading, and the rest goes on from there. -/
theorem steps_of_ofPlan {store : AliasStore} {planned : PlannedRoll} {rest : List PlannedRoll}
    {previous : Option Nat} {shown final : List String} {recorder after : Recorder σ}
    (done : ofPlan store previous shown (planned :: rest) recorder = (⟨final, .ok ()⟩, after)) :
    ∃ made middle reached, lines planned recorder = (.ok made, middle) ∧
      showLines (fun role => some (store.color role)) (headings store previous planned ++ shown)
        made = ⟨reached, .ok ()⟩ ∧
      ofPlan store (some planned.place) reached rest middle = (⟨final, .ok ()⟩, after) := by
  rw [ofPlan] at done
  rcases performed : lines planned recorder with ⟨fault | made, middle⟩ <;> rw [performed] at done
  · cases done
  · dsimp only at done
    split at done
    · cases done
    · next reached displayed => exact ⟨made, middle, reached, rfl, displayed, done⟩

/-- A performance that ends well shows the results of the plan. -/
theorem results_of_ofPlan {store : AliasStore} {plan : List PlannedRoll} {previous : Option Nat}
    {shown final : List String} {recorder after : Recorder σ}
    (done : ofPlan store previous shown plan recorder = (⟨final, .ok ()⟩, after)) :
    ∃ results made, PlannedRoll.results plan recorder = (.ok results, after) ∧
      texts store previous results = .ok made ∧ final = made.reverse ++ shown := by
  induction plan generalizing previous shown recorder with
  | nil =>
    cases done
    exact ⟨[], [], rfl, rfl, rfl⟩
  | cons planned rest inductionHypothesis =>
    obtain ⟨made, middle, reached, performed, displayed, following⟩ := steps_of_ofPlan done
    obtain ⟨rolled, rolling, lined⟩ := roll_of_lines performed
    obtain ⟨here, written, rfl⟩ := lineTexts_of_showLines displayed
    obtain ⟨results, later, others, texted, rfl⟩ := inductionHypothesis following
    refine ⟨(planned, rolled) :: results, headings store previous planned ++ here ++ later,
      ?_, ?_, ?_⟩
    · rw [PlannedRoll.results, rolling]
      dsimp only
      rw [others]
    · rw [texts, lined, ok_bind, written, ok_bind, texted]
      rfl
    · rw [List.reverse_append, List.reverse_append, reverse_headings]
      simp only [List.append_assoc]

end Performance

/-- A text was added to the file that a path leads to, and nothing else changed. Without a text the
tree is the same. -/
def Files.Tree.Appended (tree : Tree) (path : Path) (text : String) (after : Tree) : Prop :=
  text = "" ∧ after = tree ∨ tree.Extended path text.toUTF8 after

namespace Session

open Activity

variable {σ : Type} {settings : Settings} {moment : Moment} {draws : Draws}
  {workspace after : Workspace σ}

/-- Keeping draws where the history can be written adds a text from which they are decoded. -/
theorem appended_of_keepDraws (writable : workspace.tree.Writable settings.historyPath)
    (done : (keepDraws settings moment draws : Activity σ Unit).run.run workspace =
      (.ok (), after)) :
    ∃ text, History.decode text = some (History.ordered draws) ∧ after.shown = workspace.shown ∧
      workspace.tree.Appended settings.historyPath text after.tree := by
  rcases keepDraws_cases settings moment draws workspace with
    ⟨_, _, -, ran⟩ | ⟨_, written, ran⟩ | ⟨lines, _, written, ran⟩
  · cases ran.symm.trans done
  · cases ran.symm.trans done
    exact ⟨"", History.decode_block_of_moment written, rfl, .inl ⟨rfl, rfl⟩⟩
  · cases ran.symm.trans done
    have placed := (History.appendLines_of_writable writable lines).2
    exact ⟨_, History.decode_block_of_moment written, rfl, .inr placed.extended⟩

/-- Concluding a performance shows its texts and keeps the draws, unless it did not end well. -/
theorem appended_of_conclude {performance : Performance} (recorded : settings.recordHistory = true)
    (writable : workspace.tree.Writable settings.historyPath)
    (done : (conclude settings moment performance draws : Activity σ Unit).run.run workspace =
      (.ok (), after)) :
    performance.ending = .ok () ∧
      ∃ text, History.decode text = some (History.ordered draws) ∧
        after.shown = performance.shown ++ workspace.shown ∧
        workspace.tree.Appended settings.historyPath text after.tree := by
  rw [conclude, run_bind_eq_ok_iff] at done
  obtain ⟨_, middle, showed, done⟩ := done
  cases showed
  obtain ⟨_, left, ended, kept⟩ := run_bind_eq_ok_iff.1 done
  rw [run_result] at ended
  cases performing : performance.ending with
  | error fault =>
    rw [performing] at ended
    cases ended
  | ok finished =>
    rw [performing] at ended
    cases ended
    rw [if_pos recorded] at kept
    have still : ({ workspace with shown := performance.shown ++ workspace.shown } :
        Workspace σ).tree.Writable settings.historyPath := writable
    exact ⟨rfl, appended_of_keepDraws still kept⟩

variable [RandomSource σ]

/-- The results of a plan, from a seed if there is one and else from a source. -/
def freshResults (seed : Option Int) (source : σ) (plan : List PlannedRoll) :
    Except DrawError (List (PlannedRoll × List Result)) :=
  match seed with
  | some seed => (PlannedRoll.results plan (Recorder.start (Seeded.ofSeed seed))).1
  | none => (PlannedRoll.results plan (Recorder.start source)).1

/-- What a roll of a plan shows and adds to the history, and how the one comes from the other. -/
structure Record (before after : Workspace σ) (history : Path) (seed : Option Int)
    (store : AliasStore) (plan : List PlannedRoll) where
  /-- The text that is added. -/
  text : String
  /-- The draws that it tells of. -/
  draws : Draws
  /-- The results of the plan. -/
  results : List (PlannedRoll × List Result)
  /-- What is left of the draws when the plan is rolled from them. -/
  rest : Replay
  texts : List String
  /-- The text is all that changes in the files. -/
  appended : before.tree.Appended history text after.tree
  decoded : History.decode text = some draws
  /-- No number of sides comes twice. -/
  distinct : (draws.map Prod.fst).Nodup
  /-- The source gave these results. -/
  fresh : freshResults seed before.source plan = .ok results
  /-- Rolling the plan from the draws gives the same results. -/
  replayed : PlannedRoll.results plan (.ofDraws draws) = (.ok results, rest)
  /-- It uses all values of every number of sides. -/
  spent : rest.Spent
  /-- The texts are those of the results. -/
  texted : Performance.texts store none results = .ok texts
  /-- They are shown, and nothing else. -/
  shown : after.shown = texts.reverse ++ before.shown

/-- Rolling with a recorder and concluding leaves a record. -/
theorem record_of_ofPlan {ι : Type} [RandomSource ι] {source : ι} {recorder : Recorder ι}
    {performance : Performance} {seed : Option Int} {store : AliasStore} {plan : List PlannedRoll}
    {before : Workspace σ}
    (performed : Performance.ofPlan store none [] plan (Recorder.start source) =
      (performance, recorder))
    (results : freshResults seed before.source plan =
      (PlannedRoll.results plan (Recorder.start source)).1)
    (recorded : settings.recordHistory = true)
    (writable : before.tree.Writable settings.historyPath)
    (done : (conclude settings moment performance recorder.draws : Activity σ Unit).run.run
      workspace = (.ok (), after))
    (same : workspace.tree = before.tree ∧ workspace.shown = before.shown) :
    Nonempty (Record before after settings.historyPath seed store plan) := by
  obtain ⟨tree, shown⟩ := same
  rw [← tree] at writable
  obtain ⟨ended, text, decoded, showed, appended⟩ := appended_of_conclude recorded writable done
  obtain ⟨final, ending⟩ := performance
  cases ended
  obtain ⟨rolled, made, rolling, texted, rfl⟩ := Performance.results_of_ofPlan performed
  obtain ⟨rest, again, spent⟩ := (PlannedRoll.mirrors_results plan).replay rolling
  rw [List.append_nil, shown] at showed
  rw [tree] at appended
  rw [rolling] at results
  exact ⟨⟨text, _, rolled, rest, made, appended, decoded,
    History.nodup_ordered recorder.nodup_draws, results, again, spent, texted, showed⟩⟩

/-- The history is a full record of a roll. Whatever is rolled, from whatever source, when the roll
succeeds, the history is kept and its file can be written, a text is added to the file from which
the draws are decoded. Rolling the plan again, with each request answered by the next of the values
with its upper bound, gives exactly the dice, modifiers and totals that were shown, and uses up all
values. -/
theorem roll_leaves_record {seed : Option Int} {arguments : List String} {before : Workspace σ}
    (recorded : settings.recordHistory = true)
    (writable : before.tree.Writable settings.historyPath)
    (done : (roll settings moment seed arguments false : Activity σ Unit).run.run before =
      (.ok (), after)) :
    ∃ store plan, (AliasStore.load before.tree settings.aliasPath false).outcome = .ok store ∧
      PlannedRoll.ofArguments store 0 arguments = .ok plan ∧
      Nonempty (Record before after settings.historyPath seed store plan) := by
  rw [roll, run_bind_eq_ok_iff] at done
  obtain ⟨store, begun, loaded, done⟩ := done
  rw [run_loadStore] at loaded
  obtain ⟨outcome, rfl⟩ := Prod.ext_iff.1 loaded
  obtain ⟨plan, middle, planned, done⟩ := run_bind_eq_ok_iff.1 done
  rw [run_result] at planned
  obtain ⟨arranged, rfl⟩ := Prod.ext_iff.1 planned
  refine ⟨store, plan, outcome, arranged, ?_⟩
  rw [if_neg (by decide)] at done
  cases seed with
  | some seed =>
    rcases performed : Performance.ofPlan store none [] plan
      (Recorder.start (Seeded.ofSeed seed)) with ⟨performance, recorder⟩
    rw [rollPlan, performed] at done
    exact record_of_ofPlan performed rfl recorded writable done ⟨rfl, rfl⟩
  | none =>
    rw [rollPlan, run_get_bind] at done
    rcases performed : Performance.ofPlan store none [] plan (Recorder.start before.source) with
      ⟨performance, recorder⟩
    rw [performed] at done
    obtain ⟨_, middle, replaced, done⟩ := run_bind_eq_ok_iff.1 done
    cases replaced
    exact record_of_ofPlan performed rfl recorded writable done ⟨rfl, rfl⟩

/-- A workspace without files, where the first of the values is a one. -/
def scripted : Workspace Script := ⟨⟨.empty, []⟩, .ofList [1, 5, 4, 2], [], []⟩

/-- The settings where only the user's home directory is known. -/
def unset : Settings := ⟨.ofString "/home/dice", none, "WARNING", .warning, true⟩

/-- Two expressions are rolled, with a reroll in the first one. The history has every value, also
the one that did not count. -/
theorem roll_leaves_record_of_reroll :
    ∃ after : Workspace Script, ∃ store plan,
      (roll unset ⟨2024, 1, 1, 0, 0⟩ none ["2d6r", "d6+1"] false).run.run scripted =
        (.ok (), after) ∧
      Nonempty (Record scripted after unset.historyPath none store plan) ∧
      after.shown = ["3  d6+1  2  (+1)", "9  2d6r  5 4"] ∧
      after.tree.get? ["home", "dice", ".roll.history"] =
        some (.file "2024-01-01 00:00|0.3.0|6:1,5,4,2\n".toUTF8) := by
  have writable : scripted.tree.Writable unset.historyPath :=
    ⟨_, ["home", "dice", ".roll.history"], rfl, rfl, by decide +kernel⟩
  have success : ((roll unset ⟨2024, 1, 1, 0, 0⟩ none ["2d6r", "d6+1"] false).run.run scripted).1 =
      .ok () := by decide +kernel
  obtain ⟨store, plan, -, -, record⟩ := roll_leaves_record rfl writable (Prod.ext success rfl)
  exact ⟨_, store, plan, Prod.ext success rfl, record, by decide +kernel, by decide +kernel⟩

end Session

end DiceTray
