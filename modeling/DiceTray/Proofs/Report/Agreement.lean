import DiceTray.Proofs.Line
import DiceTray.Proofs.Report.Explanation
import DiceTray.Proofs.Source.Results

/-!
# One outcome in a report

A report shows the same results as fields, with faces, as lines and as an explanation. Each view is
said in terms of the results alone, so that all views of a report agree with each other, and what
the explanation tells is what the fields hold.
-/

namespace DiceTray

/-- A face that tells of a value on a die what is special about it, and nothing else. -/
def Face.Marks (sides : Int) (face : Face) (value : Int) : Prop :=
  (face = .highest ↔ value = sides) ∧ (face = .lowest ↔ value = 1)

theorem Face.marks_iff {sides value : Int} {face : Face} (enough : 2 ≤ sides) :
    Face.Marks sides face value ↔ face = .ofValue value sides := by
  have apart : ¬ (value = sides ∧ value = 1) := by omega
  rw [Marks, ofValue]
  split
  · next highest => cases face <;> simp_all
  · next other =>
    split
    · next lowest => cases face <;> simp_all
    · next middle => cases face <;> simp_all

namespace Report

variable {σ τ : Type} [RandomSource σ] [RandomSource τ]
variable {input name : String} {expression : Expression} {results : List Result} {report : Report}

/-- The width of the column of totals. -/
def totalWidth (results : List Result) : Nat :=
  commonWidth (results.map fun result => decimal result.total)

/-- The parts of a report that is made of results. -/
theorem exists_of_ofResults (made : ofResults input expression name results = .ok report) :
    ∃ canonical explanations, expression.canonical = .ok canonical ∧
      results.mapM Result.explain = .ok explanations ∧
      report = ⟨input, expression, canonical, name,
        results.map fun result => ⟨result, result.rolls.map (Face.ofValue · expression.sides),
          result.shown (totalWidth results) (Text.trim input)⟩,
        canonical ++ ": " ++ "; ".intercalate explanations⟩ := by
  obtain ⟨lines, lined, made⟩ := bind_eq_ok_iff.1 made
  obtain ⟨explanations, explained, made⟩ := bind_eq_ok_iff.1 made
  obtain ⟨canonical, written, made⟩ := bind_eq_ok_iff.1 made
  obtain ⟨texts, plain, same⟩ := bind_eq_ok_iff.1 made
  cases same
  refine ⟨canonical, explanations, written, explained, ?_⟩
  obtain ⟨-, rfl⟩ := Line.ofResults_eq_ok_iff.1 lined
  rw [List.mapM_map] at plain
  obtain rfl := eq_map_of_mapM Line.eq_of_plain plain
  have faces (width : Nat) (text : String) (result : Result) :
      (result.line width expression.sides text).dice.map Die.face =
        result.rolls.map (Face.ofValue · expression.sides) :=
    List.map_map
  rw [List.zip_map', zip_map_self, List.map_map]
  simp only [Function.comp_def, faces]
  rfl

/-- A report whose views agree. -/
structure Coherent (report : Report) : Prop where
  /-- The canonical text reads as the expression. -/
  reread : Expression.parse report.canonical = .ok report.expression
  /-- There is a result for each repetition. -/
  rounds : (report.results.length : Int) = report.expression.repetitions
  dice : ∀ entry ∈ report.results, (entry.result.rolls.length : Int) = report.expression.count
  modifier : ∀ entry ∈ report.results, entry.result.modifier = report.expression.modifier
  total : ∀ entry ∈ report.results,
    entry.result.total = entry.result.rolls.sum + entry.result.modifier
  /-- The faces tell what is special about the values, one by one. -/
  faces : ∀ entry ∈ report.results,
    List.Forall₂ (Face.Marks report.expression.sides) entry.faces entry.result.rolls
  /-- The line shows the result behind the text that was given, without the blanks around it. -/
  line : ∀ entry ∈ report.results, entry.line =
    entry.result.shown (totalWidth (report.results.map ReportedResult.result))
      (Text.trim report.input)
  /-- The explanation tells of the expression and of the results. -/
  explained : readExplanation report.explanation =
    some (report.expression, report.results.map ReportedResult.result)

/-- What is reported of results of an expression that was read is coherent. -/
theorem coherent_of_ofResults {text : String} (read : Expression.parse text = .ok expression)
    (rounds : results.length = expression.repetitions.toNat)
    (gives : ∀ result ∈ results, expression.Gives (fun _ => True) result)
    (made : ofResults input expression name results = .ok report) :
    report.input = input ∧ report.expression = expression ∧ report.Coherent := by
  obtain ⟨sensible, writable⟩ := Expression.legible_of_parse read
  have ⟨counted, enough, repeated⟩ := sensible
  obtain ⟨canonical, explanations, written, explained, rfl⟩ := exists_of_ofResults made
  obtain ⟨text, same, -, reread⟩ := Expression.exists_canonical sensible writable
  obtain rfl := Except.ok.inj (written.symm.trans same)
  have rolled : ∀ result ∈ results, (result.rolls.length : Int) = expression.count ∧
      result = .ofRolls expression.modifier result.rolls := by
    intro result member
    obtain ⟨rolls, rfl, length, -⟩ := gives result member
    exact ⟨by simp only [Result.ofRolls]; omega, rfl⟩
  have fields : (results.map fun result : Result => (⟨result,
      result.rolls.map (Face.ofValue · expression.sides),
      result.shown (totalWidth results) (Text.trim input)⟩ : ReportedResult)).map
        ReportedResult.result = results :=
    List.map_map.trans (List.map_id results)
  have present : results ≠ [] := by
    rintro rfl
    simp only [List.length_nil] at rounds
    omega
  have dice : ∀ result ∈ results, result.rolls ≠ [] := by
    intro result member none
    have length := (rolled result member).1
    rw [none, List.length_nil] at length
    omega
  refine ⟨rfl, rfl, ?_⟩
  exact {
    reread
    rounds := by
      rw [List.length_map, rounds]
      exact Int.toNat_of_nonneg (by omega)
    dice := List.forall_mem_map.2 fun result member => (rolled result member).1
    modifier := List.forall_mem_map.2 fun result member =>
      congrArg Result.modifier (rolled result member).2
    total := List.forall_mem_map.2 fun result member => by
      rw [(rolled result member).2]
      rfl
    faces := List.forall_mem_map.2 fun result _ => by
      rw [List.forall₂_map_left_iff, List.forall₂_same]
      exact fun value _ => (Face.marks_iff enough).2 rfl
    line := List.forall_mem_map.2 fun result _ => by rw [fields]
    explained := by
      rw [fields]
      exact readExplanation_of_explain sensible writable written explained present
        fun result member => ⟨dice result member, (rolled result member).2⟩ }

/-- The faces of a coherent report are known from its results. -/
theorem Coherent.map_faces (coherent : report.Coherent) :
    report.results.map ReportedResult.faces =
      (report.results.map ReportedResult.result).map fun result =>
        result.rolls.map (Face.ofValue · report.expression.sides) := by
  have enough := (Expression.legible_of_parse coherent.reread).1.2.1
  rw [List.map_map]
  refine List.map_congr_left fun entry member => ?_
  rw [← List.forall₂_eq_eq_eq, Function.comp_apply, List.forall₂_map_right_iff]
  exact (coherent.faces entry member).imp fun _ _ => (Face.marks_iff enough).1

/-- A text that is rolled is reported coherently. -/
theorem coherent_of_roll {text : String} {source : σ}
    (answered : (roll text source).1 = .ok report) :
    report.input = text ∧ Expression.parse text = .ok report.expression ∧ report.Coherent := by
  rw [roll] at answered
  split at answered
  · cases answered
  · next expression read =>
    split at answered
    · cases answered
    · next results after rolled =>
      obtain ⟨rounds, gives⟩ := Expression.gives_of_roll (fun _ _ _ _ => trivial) rolled
      obtain ⟨input, rfl, coherent⟩ :=
        coherent_of_ofResults read rounds gives (mapError_eq_ok_iff.1 answered)
      exact ⟨input, read, coherent⟩

/-- A report is one outcome shown consistently: whatever the text and the source, the views of a
report agree, and two reports with one explanation have the same expression, results and faces. -/
theorem reports_are_coherent :
    (∀ (σ : Type) [RandomSource σ] (text : String) (source : σ) (report : Report),
      (roll text source).1 = .ok report →
        report.input = text ∧ Expression.parse text = .ok report.expression ∧ report.Coherent) ∧
    ∀ (σ τ : Type) [RandomSource σ] [RandomSource τ] (first second : String) (source : σ)
      (source' : τ) (report report' : Report),
      (roll first source).1 = .ok report → (roll second source').1 = .ok report' →
      report.explanation = report'.explanation →
        report.expression = report'.expression ∧
        report.results.map ReportedResult.result = report'.results.map ReportedResult.result ∧
        report.results.map ReportedResult.faces = report'.results.map ReportedResult.faces := by
  refine ⟨fun σ _ text source report => coherent_of_roll, ?_⟩
  intro σ τ _ _ first second source source' report report' answered answered' same
  obtain ⟨-, -, coherent⟩ := coherent_of_roll answered
  obtain ⟨-, -, coherent'⟩ := coherent_of_roll answered'
  have told := coherent.explained.symm.trans (same ▸ coherent'.explained)
  rw [Option.some.injEq, Prod.mk.injEq] at told
  refine ⟨told.1, told.2, ?_⟩
  rw [coherent.map_faces, coherent'.map_faces, told.1, told.2]

/-- The report on a roll of two dice with values that are never special. -/
def plainPair (input line : String) : Report where
  input := input
  expression := ⟨2, 6, false, -1, 1⟩
  canonical := "2d6-1"
  sourceName := "scripted"
  results := [⟨⟨[3, 4], -1, 6⟩, [.ordinary, .ordinary], line⟩]
  explanation := "2d6-1: rolls [3, 4] -1 => 6"

/-- Two spellings of one expression, of which the same comes. -/
theorem reports_are_coherent_of_spellings :
    (plainPair "2d6-1" "6  2d6-1  3 4  (-1)").Coherent ∧
    (plainPair "2d6-1" "6  2d6-1  3 4  (-1)").results.map ReportedResult.result =
      (plainPair " 02D6-1[1] " "6  02D6-1[1]  3 4  (-1)").results.map ReportedResult.result := by
  have short : (roll "2d6-1" (Script.ofList [3, 4])).1 =
      .ok (plainPair "2d6-1" "6  2d6-1  3 4  (-1)") := by decide +kernel
  have long : (roll " 02D6-1[1] " (Script.ofList [3, 4])).1 =
      .ok (plainPair " 02D6-1[1] " "6  02D6-1[1]  3 4  (-1)") := by decide +kernel
  exact ⟨(reports_are_coherent.1 Script _ _ _ short).2.2,
    (reports_are_coherent.2 Script Script _ _ _ _ _ _ short long rfl).2.1⟩

end Report

end DiceTray
