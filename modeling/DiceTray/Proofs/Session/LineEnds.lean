import DiceTray.Proofs.Expression.RoundTrip
import DiceTray.Proofs.Line.Highlights
import DiceTray.Proofs.Session.Unfolding
import DiceTray.Proofs.Source.Results
import DiceTray.Proofs.Text.Layout

/-!
# The lines that a roll writes

A roll writes a line for each repetition of its expressions and one for each alias that is named,
and besides these as many as there are line ends in what it shows. Expressions may hold any white
space and aliases any characters, so the texts that were rolled and the headings can have line ends
of their own; nothing else that is shown has one.
-/

namespace DiceTray

open Text

/-- How many lines are written for texts. -/
def linesFor (texts : List String) : Nat := lineEnds (String.join (texts.map printed))

@[simp] theorem linesFor_nil : linesFor [] = 0 := rfl

@[simp] theorem linesFor_cons (text : String) (rest : List String) :
    linesFor (text :: rest) = lineEnds text + 1 + linesFor rest := by
  rw [linesFor, List.map_cons, String.join_cons, lineEnds_append, lineEnds_printed]
  rfl

@[simp] theorem linesFor_append (above below : List String) :
    linesFor (above ++ below) = linesFor above + linesFor below := by
  rw [linesFor, List.map_append, String.join_append, lineEnds_append]
  rfl

/-! ## Results -/

/-- Of the fields of a result only the text can have line ends. -/
theorem Result.lineEnds_shown (width : Nat) (text : String) (result : Result) :
    lineEnds (result.shown width text) = lineEnds text := by
  have total : lineEnds (padLeft width (decimal result.total)) = 0 := by
    rw [padLeft, lineEnds_append, lineEnds_eq_zero_iff.2 (notMem_decimal (by decide) (by decide) _),
      Nat.add_zero, lineEnds_eq_zero_iff, String.toList_ofList]
    intro member
    exact absurd (List.eq_of_mem_replicate member) (by decide)
  have dice : lineEnds (" ".intercalate (result.rolls.map decimal)) = 0 := by
    refine lineEnds_eq_zero_iff.2 (notMem_intercalate (by decide) ?_)
    exact List.forall_mem_map.2 fun value _ => notMem_decimal (by decide) (by decide) value
  have modifier : lineEnds (if result.modifier = 0 then ""
      else fieldGap ++ "(" ++ signedDecimal result.modifier ++ ")") = 0 := by
    split
    · rfl
    · have number := lineEnds_eq_zero_iff.2
        (notMem_signedDecimal (c := '\n') (by decide) (by decide) result.modifier)
      simp only [lineEnds_append, number]
      rfl
  have gap : lineEnds fieldGap = 0 := rfl
  rw [Result.shown]
  simp only [lineEnds_append, total, dice, modifier, gap]
  omega

/-- A line is shown as it is without highlights, but for characters that are not displayed. -/
theorem Line.lineEnds_of_pieces {line : Line} {color : Role → Option String} {pieces : List Piece}
    (made : line.pieces color = .ok pieces) :
    ∃ shown, line.plain = .ok shown ∧ lineEnds (piecesText pieces) = lineEnds shown := by
  obtain ⟨dice, each, -⟩ := bind_eq_ok_iff.1 made
  have writable : ∀ die ∈ line.dice, Writable die.value := fun die member =>
    (exists_mapM_iff.1 ⟨dice, each⟩ die member).elim fun _ piece => (Die.piece_eq_ok_iff.1 piece).1
  obtain ⟨_, shown, same, plain, highlighted⟩ := highlighted_of_writable writable color
  cases made.symm.trans same
  exact ⟨shown, plain, by rw [highlighted.text, lineEnds_displayable]⟩

/-- The results of a text are written on one line each, and on as many more as it has line ends. -/
theorem Performance.linesFor_of_lineTexts {color : Role → Option String} {width : Nat} {sides : Int}
    {text : String} {results : List Result} {texts : List String}
    (made : lineTexts color (results.map (Result.line width sides text)) = .ok texts) :
    linesFor texts = results.length * (lineEnds text + 1) := by
  induction results generalizing texts with
  | nil =>
    cases made
    rw [List.length_nil, Nat.zero_mul]
    rfl
  | cons result rest inductionHypothesis =>
    rw [List.map_cons, lineTexts, List.mapM_cons] at made
    obtain ⟨here, first, made⟩ := bind_eq_ok_iff.1 made
    obtain ⟨others, later, same⟩ := bind_eq_ok_iff.1 made
    cases same
    obtain ⟨pieces, pieced, rfl⟩ := map_eq_ok_iff.1 first
    obtain ⟨shown, plain, ends⟩ := Line.lineEnds_of_pieces pieced
    rw [linesFor_cons, ends, Line.eq_of_plain result shown plain, Result.lineEnds_shown,
      inductionHypothesis later, List.length_cons, Nat.succ_mul, Nat.add_comm]

/-! ## Showing -/

section Showing

variable {α σ : Type} {first second : Showing σ} {above below : Nat}

/-- Whatever a computation shows is written on a number of lines. -/
def Showing.Writes (showing : Showing σ) (count : Nat) : Prop :=
  ∀ source texts after, showing source = (.ok texts, after) → linesFor texts = count

theorem Showing.writes_lines (texts : List String) :
    (Showing.lines texts : Showing σ).Writes (linesFor texts) := by
  rintro source _ _ ⟨⟩
  rfl

theorem Showing.Writes.andThen (writes : first.Writes above) (writes' : second.Writes below) :
    (first.andThen second).Writes (above + below) := by
  intro source texts after done
  obtain ⟨upper, middle, lower, started, ended, rfl⟩ := Showing.andThen_eq_ok_iff.1 done
  rw [linesFor_append, writes _ _ _ started, writes' _ _ _ ended]

end Showing

/-- The lines that a planned roll promises: one for each repetition. -/
def PlannedRoll.promised (planned : PlannedRoll) : Nat := planned.expression.repetitions.toNat

/-- The lines that the line ends of its text add. -/
def PlannedRoll.broken (planned : PlannedRoll) : Nat := planned.promised * lineEnds planned.text

namespace AliasStore

/-- The names of aliases among arguments. -/
def namesAmong (store : AliasStore) (arguments : List String) : List String :=
  arguments.filter fun argument => (store.get? argument).isSome

/-- The lines that the line ends in the heading of an alias add. -/
def brokenHeading (store : AliasStore) (name : String) : Nat := lineEnds (store.heading name)

/-- The lines that a roll promises: one for each repetition of a planned expression, and one for
each argument that names an alias. -/
def promisedLines (store : AliasStore) (arguments : List String) (plan : List PlannedRoll) : Nat :=
  (plan.map PlannedRoll.promised).sum + (store.namesAmong arguments).length

/-- The lines that are written besides. -/
def brokenLines (store : AliasStore) (arguments : List String) (plan : List PlannedRoll) : Nat :=
  (plan.map PlannedRoll.broken).sum + ((store.namesAmong arguments).map store.brokenHeading).sum

/-- All lines of a roll. -/
def writtenLines (store : AliasStore) (arguments : List String) (plan : List PlannedRoll) : Nat :=
  store.promisedLines arguments plan + store.brokenLines arguments plan

theorem writtenLines_append (store : AliasStore) (argument : String) (rest : List String)
    (here after : List PlannedRoll) :
    store.writtenLines (argument :: rest) (here ++ after) =
      store.writtenLines [argument] here + store.writtenLines rest after := by
  simp only [writtenLines, promisedLines, brokenLines, namesAmong]
  rw [← List.singleton_append, List.filter_append]
  simp only [List.map_append, List.sum_append, List.length_append]
  omega

end AliasStore

namespace Performance

variable {σ : Type} [RandomSource σ] {store : AliasStore}

/-- A roll writes a line for each repetition, and more if its text has line ends. -/
theorem writes_showRoll (planned : PlannedRoll) :
    (showRoll store planned.text planned.expression : Showing σ).Writes
      (planned.promised + planned.broken) := by
  intro source texts after done
  rw [showRoll] at done
  rcases rolled : planned.expression.roll source with ⟨error | results, middle⟩ <;>
    rw [rolled] at done
  · cases done
  · obtain ⟨shown, -⟩ := Prod.ext_iff.1 done
    obtain ⟨lines, made, written⟩ := bind_eq_ok_iff.1 (mapError_eq_ok_iff.1 shown)
    obtain ⟨-, rfl⟩ := Line.ofResults_eq_ok_iff.1 made
    have nothing : ∀ (source : σ) value after,
        draw source 1 planned.expression.sides = (.ok value, after) → (fun _ => True) value :=
      fun _ _ _ _ => trivial
    have rounds := (Expression.gives_of_roll nothing rolled).1
    rw [linesFor_of_lineTexts written, rounds, Nat.mul_add_one, Nat.add_comm]
    rfl

/-- So do the rolls of an argument. -/
theorem writes_each {here : List PlannedRoll}
    (read : ∀ planned ∈ here, Expression.parse planned.text = .ok planned.expression) :
    (Showing.each (showText store) (here.map PlannedRoll.text) : Showing σ).Writes
      ((here.map PlannedRoll.promised).sum + (here.map PlannedRoll.broken).sum) := by
  induction here with
  | nil => exact Showing.writes_lines []
  | cons planned rest inductionHypothesis =>
    obtain ⟨parsed, later⟩ := List.forall_mem_cons.1 read
    have count : ((planned :: rest).map PlannedRoll.promised).sum +
          ((planned :: rest).map PlannedRoll.broken).sum = planned.promised + planned.broken +
        ((rest.map PlannedRoll.promised).sum + (rest.map PlannedRoll.broken).sum) := by
      simp only [List.map_cons, List.sum_cons]
      omega
    rw [count, List.map_cons, Showing.each, showText_of_parse parsed]
    exact (writes_showRoll planned).andThen (inductionHypothesis later)

/-- An argument writes its heading, if it names an alias, and its rolls. -/
theorem writes_showArgument {argument : String} {place : Nat} {here : List PlannedRoll}
    (planned : PlannedRoll.ofArgument store place argument = .ok here) :
    (showArgument store argument : Showing σ).Writes (store.writtenLines [argument] here) := by
  have read := PlannedRoll.eq_of_mem_ofArgument planned
  have rolls : (Showing.each (showText store) (store.textsOf argument) : Showing σ).Writes
      ((here.map PlannedRoll.promised).sum + (here.map PlannedRoll.broken).sum) := by
    rw [← PlannedRoll.map_text_of_ofArgument planned]
    exact writes_each fun planned member => (read planned member).2.2
  rw [AliasStore.textsOf] at rolls
  rw [showArgument, AliasStore.writtenLines, AliasStore.promisedLines, AliasStore.brokenLines,
    AliasStore.namesAmong]
  cases found : store.get? argument with
  | none =>
    rw [found] at rolls
    dsimp only at rolls
    rw [Showing.each, Showing.each, Showing.andThen_lines_nil] at rolls
    rw [List.filter_cons_of_neg (by simp [found])]
    exact rolls
  | some named =>
    rw [found] at rolls
    have heading : (Showing.lines [store.heading argument] : Showing σ).Writes
        (store.brokenHeading argument + 1) := by
      have writes : (Showing.lines [store.heading argument] : Showing σ).Writes _ :=
        Showing.writes_lines _
      rwa [linesFor_cons, linesFor_nil, Nat.add_zero] at writes
    have count : (here.map PlannedRoll.promised).sum + [argument].length +
          ((here.map PlannedRoll.broken).sum + ([argument].map store.brokenHeading).sum) =
        store.brokenHeading argument + 1 +
          ((here.map PlannedRoll.promised).sum + (here.map PlannedRoll.broken).sum) := by
      rw [List.map_singleton, List.sum_singleton, List.length_singleton]
      omega
    rw [List.filter_cons_of_pos (by simp [found]), List.filter_nil, count]
    exact heading.andThen rolls

/-- Arguments write what each of them writes. -/
theorem writes_showArguments {arguments : List String} {place : Nat} {plan : List PlannedRoll}
    (planned : PlannedRoll.ofArguments store place arguments = .ok plan) :
    (showArguments store arguments : Showing σ).Writes (store.writtenLines arguments plan) := by
  induction arguments generalizing place plan with
  | nil =>
    cases planned
    exact Showing.writes_lines []
  | cons argument rest inductionHypothesis =>
    rw [PlannedRoll.ofArguments, bind_eq_ok_iff] at planned
    obtain ⟨here, plannedHere, planned⟩ := planned
    obtain ⟨after, plannedAfter, planned⟩ := bind_eq_ok_iff.1 planned
    cases planned
    rw [AliasStore.writtenLines_append]
    exact (writes_showArgument plannedHere).andThen (inductionHypothesis plannedAfter)

end Performance

/-- No line is broken when neither the texts that are rolled nor the headings have line ends, and
only then. -/
theorem AliasStore.brokenLines_eq_zero_iff {store : AliasStore} {arguments : List String}
    {plan : List PlannedRoll} (repeated : ∀ planned ∈ plan, 0 < planned.promised) :
    store.brokenLines arguments plan = 0 ↔
      (∀ planned ∈ plan, '\n' ∉ planned.text.toList) ∧
        ∀ name ∈ store.namesAmong arguments, '\n' ∉ (store.heading name).toList := by
  rw [brokenLines, Nat.add_eq_zero_iff, List.sum_eq_zero_iff_forall_eq_nat,
    List.sum_eq_zero_iff_forall_eq_nat, List.forall_mem_map, List.forall_mem_map]
  apply and_congr
  · refine forall₂_congr fun planned member => ?_
    rw [← lineEnds_eq_zero_iff, PlannedRoll.broken, Nat.mul_eq_zero]
    exact or_iff_right (Nat.ne_of_gt (repeated planned member))
  · exact forall₂_congr fun name _ => lineEnds_eq_zero_iff

/-- Every planned roll promises a line. -/
theorem PlannedRoll.promised_pos {planned : PlannedRoll}
    (read : Expression.parse planned.text = .ok planned.expression) : 0 < planned.promised := by
  have repeated := (Expression.legible_of_parse read).1.2.2
  rw [promised]
  omega

namespace Session

open Activity

/-- What was shown is written on these lines. -/
theorem lineEnds_output {σ : Type} (workspace : Workspace σ) :
    lineEnds workspace.output = linesFor workspace.shown.reverse := rfl

variable {σ : Type} [RandomSource σ] {settings : Settings} {moment : Moment} {seed : Option Int}
  {arguments : List String} {before after : Workspace σ}

/-- What arguments show, from a seed or from the source of the system, is written on these lines. -/
theorem linesFor_rollArguments {source : σ} {store : AliasStore} {plan : List PlannedRoll}
    {lines : List String} (planned : PlannedRoll.ofArguments store 0 arguments = .ok plan)
    (rolled : (rollArguments seed source store arguments).lines = .ok lines) :
    linesFor lines = store.writtenLines arguments plan := by
  cases seed with
  | some seed => exact Performance.writes_showArguments planned _ _ _ (Prod.ext rolled rfl)
  | none => exact Performance.writes_showArguments planned _ _ _ (Prod.ext rolled rfl)

/-- A roll that succeeds has loaded the aliases. -/
theorem exists_load_of_run_roll {average : Bool}
    (done : (roll settings moment seed arguments average : Activity σ Unit).run.run before =
      (.ok (), after)) :
    ∃ store, (AliasStore.load before.tree settings.aliasPath false).outcome = .ok store := by
  rw [roll, run_bind_eq_ok_iff] at done
  obtain ⟨store, begun, loaded, -⟩ := done
  rw [run_loadStore] at loaded
  exact ⟨store, (Prod.ext_iff.1 loaded).1⟩

/-- A roll writes the lines that it promises, and more where what it shows has line ends. Whatever
is rolled, from whatever source, when the roll succeeds a line was written for each repetition of a
planned expression and for each argument that names an alias, and besides, for each of these, as
many as there are line ends in the text that was rolled or in the heading. So the lines are those
that were promised exactly when none of these has a line end. -/
theorem roll_writes_promised_lines
    (done : (roll settings moment seed arguments false : Activity σ Unit).run.run before =
      (.ok (), after)) :
    ∃ store plan, (AliasStore.load before.tree settings.aliasPath false).outcome = .ok store ∧
      PlannedRoll.ofArguments store 0 arguments = .ok plan ∧
      lineEnds after.output = lineEnds before.output + store.promisedLines arguments plan +
        store.brokenLines arguments plan ∧
      (lineEnds after.output = lineEnds before.output + store.promisedLines arguments plan ↔
        (∀ planned ∈ plan, '\n' ∉ planned.text.toList) ∧
          ∀ name ∈ store.namesAmong arguments, '\n' ∉ (store.heading name).toList) := by
  obtain ⟨store, loaded⟩ := exists_load_of_run_roll done
  obtain ⟨⟨plan, planned⟩, lines, kept, rolled, -, rfl⟩ := (run_roll_eq_ok_iff loaded).1 done
  have read := (PlannedRoll.map_item_of_ofArguments planned).2
  have written : lineEnds (Workspace.output { kept with shown := lines.reverse ++ before.shown }) =
      lineEnds before.output + store.promisedLines arguments plan +
        store.brokenLines arguments plan := by
    rw [lineEnds_output, lineEnds_output, List.reverse_append, List.reverse_reverse,
      linesFor_append, linesFor_rollArguments planned rolled, AliasStore.writtenLines,
      Nat.add_assoc]
  refine ⟨store, plan, loaded, planned, written, ?_⟩
  rw [written, Nat.add_eq_left,
    AliasStore.brokenLines_eq_zero_iff fun planned member =>
      PlannedRoll.promised_pos (read planned member)]

/-- A die and a sword are rolled: the lines are the three rolls and the heading of the sword. -/
theorem roll_writes_promised_lines_of_sword :
    ∃ after : Workspace Script, ∃ store plan,
      (roll unset ⟨2024, 1, 1, 0, 0⟩ none ["d8", "sword"] false).run.run armoury = (.ok (), after) ∧
      PlannedRoll.ofArguments store 0 ["d8", "sword"] = .ok plan ∧
      lineEnds after.output = lineEnds armoury.output +
        store.promisedLines ["d8", "sword"] plan + store.brokenLines ["d8", "sword"] plan := by
  have success : ((roll unset ⟨2024, 1, 1, 0, 0⟩ none ["d8", "sword"] false).run.run armoury).1 =
      .ok () := by decide +kernel
  rcases done : (roll unset ⟨2024, 1, 1, 0, 0⟩ none ["d8", "sword"] false).run.run armoury with
    ⟨result, after⟩
  rw [done] at success
  obtain rfl : result = .ok () := success
  obtain ⟨store, plan, -, planned, written, -⟩ := roll_writes_promised_lines done
  exact ⟨after, store, plan, rfl, planned, written⟩

/-- A workspace without files, where every die shows a one. -/
def ones : Workspace Constant := ⟨⟨.empty, []⟩, ⟨1⟩, [], []⟩

/-- An expression that ends with a line end is rolled once, and that is written on two lines. -/
theorem line_end_in_text_breaks_line :
    ∃ after : Workspace Constant,
      (roll unset ⟨2024, 1, 1, 0, 0⟩ none ["1d6\n"] false).run.run ones = (.ok (), after) ∧
      after.shown = ["1  1d6\n  1"] ∧ lineEnds after.output = 2 ∧
      ∀ store plan, (AliasStore.load ones.tree unset.aliasPath false).outcome = .ok store →
        PlannedRoll.ofArguments store 0 ["1d6\n"] = .ok plan →
        store.promisedLines ["1d6\n"] plan = 1 := by
  have ended : Prod.map id Workspace.shown
      ((roll unset ⟨2024, 1, 1, 0, 0⟩ none ["1d6\n"] false).run.run ones) =
        (.ok (), ["1  1d6\n  1"]) := by decide +kernel
  rcases done : (roll unset ⟨2024, 1, 1, 0, 0⟩ none ["1d6\n"] false).run.run ones with
    ⟨result, after⟩
  rw [done] at ended
  obtain ⟨success, shown⟩ := Prod.mk.inj ended
  obtain rfl : result = .ok () := success
  refine ⟨after, rfl, shown, ?_, fun store plan loaded planned => ?_⟩
  · have broken : lineEnds "1  1d6\n  1" = 1 := by decide +kernel
    rw [lineEnds_output, shown, List.reverse_singleton, linesFor_cons, linesFor_nil, broken]
  · have missing : ones.tree.locate unset.aliasPath = .error .notFound := by decide +kernel
    have loaded' := AliasStore.load_of_lost missing false
    obtain rfl : .empty = store := Except.ok.inj (loaded'.symm.trans loaded)
    have only : PlannedRoll.ofArguments .empty 0 ["1d6\n"] =
        .ok [⟨0, none, "1d6\n", ⟨1, 6, false, 0, 1⟩⟩] := by decide +kernel
    obtain rfl := Except.ok.inj (only.symm.trans planned)
    rfl

end Session

end DiceTray
