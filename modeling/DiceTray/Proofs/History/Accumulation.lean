import DiceTray.Proofs.History.Appending
import DiceTray.Proofs.History.Decoding

/-!
# The history as it grows

Draws are added to the history time after time. In a place where the file can be written, each
addition puts its lines behind those of the additions before it, and nowhere is anything lost that
stood in a file. From the text that all of them added, the draws of each are decoded, in order.
-/

namespace DiceTray.History

open Files

/-- A request to add draws to the history at a moment. -/
structure Addition where
  /-- The values drawn, by the number of sides. -/
  draws : OrderedMap Int (List Int)
  moment : Moment

namespace Addition

/-- All numbers of an addition may be written. -/
def Legible (addition : Addition) : Prop :=
  ∀ draw ∈ addition.draws.entries, Writable draw.1 ∧ ∀ value ∈ draw.2, Writable value

/-- No values were drawn. -/
def Idle (addition : Addition) : Prop :=
  ∀ draw ∈ addition.draws.entries, draw.2 = []

/-- Adds the draws to a file in the name of a version of the program. -/
def perform (program : String) (path : Path) (addition : Addition) (tree : Tree) :
    Logged Fault Nat × Tree :=
  appendAs program tree path addition.draws.entries addition.moment

/-- Performs additions one after the other, whatever becomes of those before, and tells what each of
them came to. -/
def performAll (program : String) (path : Path) :
    List Addition → Tree → List (Except Fault Nat) × Tree
  | [], tree => ([], tree)
  | addition :: rest, tree =>
    let performed := addition.perform program path tree
    let others := performAll program path rest performed.2
    (performed.1.outcome :: others.1, others.2)

end Addition

/-- What an addition leaves in the history. -/
structure Contribution where
  lines : List String
  /-- The draws that the lines tell of. -/
  draws : Draws

/-- A contribution is that of an addition: its lines are written for the draws, and read line by
line they tell of the draws that have values, by strictly increasing number of sides. -/
structure Contribution.IsOf (program : String) (addition : Addition)
    (contribution : Contribution) : Prop where
  written : History.lines addition.draws.entries addition.moment.stamp program =
    .ok contribution.lines
  told : TellOf contribution.lines contribution.draws
  increasing : contribution.draws.Pairwise fun left right => left.1 < right.1
  mem_draws : ∀ draw, draw ∈ contribution.draws ↔
    draw ∈ addition.draws.entries ∧ draw.2 ≠ []

/-- Lines were placed behind what a file held, or there were none and nothing was touched. -/
inductive Grown (tree : Tree) (path : Path) : List String → Tree → Prop
  | idle : Grown tree path [] tree
  | placed {lines : List String} {after : Tree} (some : lines ≠ [])
      (placed : tree.Placed path (withLines lines) after) : Grown tree path lines after

variable {program : String} {path : Path} {tree middle after : Tree} {lines more : List String}
  {addition : Addition}

theorem toUTF8_block_append (lines more : List String) :
    (block (lines ++ more)).toUTF8 = (block lines).toUTF8 ++ (block more).toUTF8 := by
  rw [block, List.map_append, String.join_append]
  rfl

theorem withLines_withLines (lines more : List String) :
    (fun contents => withLines more (withLines lines contents)) = withLines (lines ++ more) := by
  funext contents
  simp only [withLines, toUTF8_block_append, ByteArray.append_assoc]

theorem Grown.writable (grown : Grown tree path lines after) (writable : tree.Writable path) :
    after.Writable path := by
  cases grown with
  | idle => exact writable
  | placed _ placed => exact placed.writable

/-- Growing goes on from where it was left. -/
theorem Grown.trans (grown : Grown tree path lines middle)
    (further : Grown middle path more after) : Grown tree path (lines ++ more) after := by
  cases grown with
  | idle => exact further
  | placed some placed =>
    cases further with
    | idle =>
      rw [List.append_nil]
      exact .placed some placed
    | placed _ again =>
      refine .placed (by simp [some]) ?_
      rw [← withLines_withLines]
      exact placed.trans again

/-- The file holds what it held before, with the lines behind it, and every other file is as it
was. -/
theorem Grown.extended (grown : Grown tree path lines after) :
    (lines = [] → after = tree) ∧ (lines ≠ [] → tree.Extended path (block lines).toUTF8 after) := by
  cases grown with
  | idle => exact ⟨fun _ => rfl, fun some => absurd rfl some⟩
  | placed some placed => exact ⟨fun none => absurd none some, fun _ => placed.extended⟩

theorem contribution_of_legible (versioned : ∀ c ∈ program.toList, c ≠ '|' ∧ c ≠ '\n')
    (legible : addition.Legible) :
    ∃ contribution : Contribution, contribution.IsOf program addition := by
  obtain ⟨written, made⟩ := exists_lines legible
  have distinct := addition.draws.nodup_keys
  refine ⟨⟨written, ordered addition.draws.entries⟩, made, ?_, ?_, fun draw => mem_ordered⟩
  · exact tellOf_lines (ne_of_mem_stamp addition.moment) versioned made
  · exact increasing_ordered distinct

/-- One addition, in a place where the file can be written, tells the number of its lines and adds
them. -/
theorem Addition.perform_of_writable (writable : tree.Writable path)
    (written : History.lines addition.draws.entries addition.moment.stamp program = .ok lines) :
    (addition.perform program path tree).1.outcome = .ok lines.length ∧
      Grown tree path lines (addition.perform program path tree).2 := by
  rcases appendAs_cases program tree path addition.draws.entries addition.moment with
    ⟨error, failed, -⟩ | ⟨none, added⟩ | ⟨lines', written', some, added⟩
  · rw [written] at failed
    cases failed
  · rw [written] at none
    cases none
    rw [perform, added]
    exact ⟨rfl, .idle⟩
  · rw [written] at written'
    cases written'
    obtain ⟨outcome, placed⟩ := appendLines_of_writable writable lines
    rw [perform, added]
    exact ⟨outcome, .placed some placed⟩

/-- An addition without values creates and changes nothing, wherever the file should be. -/
theorem Addition.perform_of_idle (idle : addition.Idle) (program : String) (path : Path)
    (tree : Tree) : addition.perform program path tree = (.done 0, tree) := by
  have none : ordered addition.draws.entries = [] := by
    apply List.eq_nil_iff_forall_not_mem.2
    intro draw member
    obtain ⟨among, some⟩ := mem_ordered.1 member
    exact some (idle draw among)
  rw [perform, appendAs, History.lines, none]
  rfl

/-- Whether an addition succeeds or fails, nothing that a file held is lost. -/
theorem Addition.lossless_perform (program : String) (path : Path) (addition : Addition)
    (tree : Tree) : tree.Lossless (addition.perform program path tree).2 := by
  rw [perform]
  rcases appendAs_cases program tree path addition.draws.entries addition.moment with
    ⟨error, -, failed⟩ | ⟨-, nothing⟩ | ⟨lines, -, -, added⟩
  · rw [failed]
    exact (Tree.SameFiles.refl tree).lossless
  · rw [nothing]
    exact (Tree.SameFiles.refl tree).lossless
  · rw [added]
    rcases appendLines_cases tree path lines with ⟨error, -, left⟩ | ⟨-, placed⟩
    · rw [left]
      exact (tree.sameFiles_makeDirectories path.parent).lossless
    · exact Tree.Extended.lossless placed.extended

theorem Addition.lossless_performAll (program : String) (path : Path) (additions : List Addition)
    (tree : Tree) : tree.Lossless (performAll program path additions tree).2 := by
  induction additions generalizing tree with
  | nil => exact (Tree.SameFiles.refl tree).lossless
  | cons addition rest inductionHypothesis =>
    exact (addition.lossless_perform program path tree).trans (inductionHypothesis _)

/-- A run of additions, from a place where the file can be written: each tells the number of its
lines, and the file grows by what all of them contribute. -/
theorem Addition.performAll_of_writable (versioned : ∀ c ∈ program.toList, c ≠ '|' ∧ c ≠ '\n')
    (writable : tree.Writable path) {additions : List Addition}
    (legible : ∀ addition ∈ additions, addition.Legible) :
    ∃ contributions : List Contribution,
      List.Forall₂ (Contribution.IsOf program) additions contributions ∧
      (Addition.performAll program path additions tree).1 =
        contributions.map (fun contribution => .ok contribution.lines.length) ∧
      Grown tree path (contributions.flatMap Contribution.lines)
        (Addition.performAll program path additions tree).2 ∧
      TellOf (contributions.flatMap Contribution.lines)
        (contributions.flatMap Contribution.draws) := by
  induction additions generalizing tree with
  | nil => exact ⟨[], .nil, rfl, .idle, nofun, rfl⟩
  | cons addition rest inductionHypothesis =>
    obtain ⟨here, later⟩ := List.forall_mem_cons.1 legible
    obtain ⟨contribution, isOf⟩ := contribution_of_legible versioned here
    obtain ⟨outcome, grown⟩ := perform_of_writable writable isOf.written
    obtain ⟨others, each, outcomes, further, told⟩ :=
      inductionHypothesis (grown.writable writable) later
    refine ⟨contribution :: others, .cons isOf each, ?_, grown.trans further, isOf.told.append told⟩
    rw [performAll, List.map_cons, outcome, outcomes]

/-- The history is only added to, and all of it can be decoded. Wherever it should be, no addition
loses what a file held, and one without values creates and changes nothing. In a place where the
file can be written, after any additions of integers that may be written, the file holds what it
held before, if it was there, and behind that the lines of each addition in turn. Each addition
tells the number of its lines, and what is decoded from all lines are the draws of one addition
after the other: those that have values, with the values as they were drawn, by strictly increasing
number of sides. -/
theorem additions_accumulate (program : String) (tree : Tree) (path : Path)
    (additions : List Addition) (versioned : ∀ c ∈ program.toList, c ≠ '|' ∧ c ≠ '\n')
    (writable : tree.Writable path) (legible : ∀ addition ∈ additions, addition.Legible) :
    (∀ elsewhere : Tree,
      elsewhere.Lossless (Addition.performAll program path additions elsewhere).2) ∧
    (∀ addition : Addition, addition.Idle → ∀ elsewhere,
      addition.perform program path elsewhere = (.done 0, elsewhere)) ∧
    ∃ contributions : List Contribution,
      List.Forall₂ (Contribution.IsOf program) additions contributions ∧
      (Addition.performAll program path additions tree).1 =
        contributions.map (fun contribution => .ok contribution.lines.length) ∧
      (contributions.flatMap Contribution.lines = [] →
        (Addition.performAll program path additions tree).2 = tree) ∧
      (contributions.flatMap Contribution.lines ≠ [] →
        tree.Extended path (block (contributions.flatMap Contribution.lines)).toUTF8
          (Addition.performAll program path additions tree).2) ∧
      decode (block (contributions.flatMap Contribution.lines)) =
        some (contributions.flatMap Contribution.draws) := by
  obtain ⟨contributions, each, outcomes, grown, told⟩ :=
    Addition.performAll_of_writable versioned writable legible
  obtain ⟨same, extended⟩ := grown.extended
  exact ⟨Addition.lossless_performAll program path additions,
    fun addition idle => addition.perform_of_idle idle program path,
    contributions, each, outcomes, same, extended, told.decode⟩

/-- A file with one line of its own. -/
def oldLog : Tree := Tree.put ⟨.empty, []⟩ ["log"] (.file "old\n".toUTF8)

/-- Two values of one size, then nothing, and then a size whose number is negative. -/
def threeAdditions : List Addition :=
  [⟨.ofList [(8, []), (20, [3, 17])], ⟨1976, 7, 1, 12, 0⟩⟩,
    ⟨.ofList [(6, [])], ⟨1976, 7, 1, 12, 1⟩⟩,
    ⟨.ofList [(-6, [2])], ⟨1976, 7, 1, 12, 2⟩⟩]

theorem additions_accumulate_of_three :
    (Addition.performAll "1.0" (.ofString "/log") threeAdditions oldLog).1 =
      [.ok 1, .ok 0, .ok 1] ∧
    (Addition.performAll "1.0" (.ofString "/log") threeAdditions oldLog).2.get? ["log"] =
      some (.file "old\n1976-07-01 12:00|1.0|20:3,17\n1976-07-01 12:02|1.0|-6:2\n".toUTF8) ∧
    ∃ contributions : List Contribution,
      List.Forall₂ (Contribution.IsOf "1.0") threeAdditions contributions ∧
      decode (block (contributions.flatMap Contribution.lines)) =
        some (contributions.flatMap Contribution.draws) := by
  have writable : oldLog.Writable (.ofString "/log") :=
    ⟨oldLog, ["log"], rfl, rfl, by decide +kernel⟩
  have legible : ∀ addition ∈ threeAdditions, addition.Legible := by
    unfold Addition.Legible
    decide +kernel
  obtain ⟨-, -, contributions, each, -, -, -, decoded⟩ :=
    additions_accumulate "1.0" oldLog (.ofString "/log") threeAdditions (by simp) writable legible
  exact ⟨by decide +kernel, by decide +kernel, contributions, each, decoded⟩

end DiceTray.History
