import DiceTray.Text.Layout
import Mathlib.Data.List.Count

/-!
# Lines of printed texts

A text is printed with one line end more than it holds. Laying out a line adds no line end to it,
and none of the characters that are not displayed is one, so every line end that is written either
stands in the text or ends it.
-/

namespace DiceTray.Text

/-! ## Splitting -/

/-- Splitting a text is splitting the list of its characters. -/
theorem splitChars_eq_splitOn (separator : Char) (cs : List Char) :
    splitChars separator cs = cs.splitOn separator := by
  have step : ∀ (cs piece : List Char) (done : List (List Char)),
      splitFrom separator piece done cs =
        done.reverse ++ (cs.splitOn separator).modifyHead (piece.reverse ++ ·) := by
    intro cs
    induction cs with
    | nil =>
      intro piece done
      rw [splitFrom, List.splitOn_nil, List.modifyHead_cons, List.append_nil, List.reverse_cons]
    | cons c rest inductionHypothesis =>
      intro piece done
      rw [splitFrom, List.splitOn_eq_splitOnP, List.splitOnP_cons_eq_if_modifyHead,
        ← List.splitOn_eq_splitOnP]
      split
      · next same =>
        rw [inductionHypothesis, if_pos (beq_iff_eq.2 same)]
        cases rest.splitOn separator <;> simp
      · next other =>
        rw [inductionHypothesis, if_neg (by simpa using other)]
        cases rest.splitOn separator <;> simp
  rw [splitChars, step]
  cases cs.splitOn separator <;> simp

/-- The characters of the parts are those of the text but for the separator. -/
theorem mem_of_mem_splitOn {separator : Char} {cs part : List Char}
    (member : part ∈ cs.splitOn separator) : ∀ c ∈ part, c ∈ cs ∧ c ≠ separator := by
  induction cs generalizing part with
  | nil =>
    rw [List.splitOn_nil, List.mem_singleton] at member
    rw [member]
    exact nofun
  | cons c rest inductionHypothesis =>
    have wider : ∀ part ∈ rest.splitOn separator, ∀ d ∈ part, d ∈ c :: rest ∧ d ≠ separator :=
      fun part among d inside =>
        (inductionHypothesis among d inside).imp_left (List.mem_cons_of_mem c)
    rw [List.splitOn_cons_eq_if_modifyHead] at member
    split at member
    · rcases List.mem_cons.1 member with rfl | later
      · exact nofun
      · exact wider part later
    · next other =>
      rcases parts : rest.splitOn separator with - | ⟨first, others⟩ <;> rw [parts] at member wider
      · cases member
      · obtain ⟨here, later⟩ := List.forall_mem_cons.1 wider
        rcases List.mem_cons.1 member with rfl | behind
        · exact List.forall_mem_cons.2
            ⟨⟨List.mem_cons_self, fun same => other (beq_iff_eq.2 same)⟩, here⟩
        · exact later part behind

/-- No part of a text that was split has the separator. -/
theorem notMem_of_mem_splitOn {separator : Char} {cs part : List Char}
    (member : part ∈ cs.splitOn separator) : separator ∉ part :=
  fun inside => (mem_of_mem_splitOn member separator inside).2 rfl

/-- Splitting makes one part more than there are separators. -/
theorem length_splitOn (separator : Char) (cs : List Char) :
    (cs.splitOn separator).length = cs.count separator + 1 := by
  induction cs with
  | nil => rfl
  | cons c rest inductionHypothesis =>
    rw [List.splitOn_cons_eq_if_modifyHead, List.count_cons]
    split
    · rw [List.length_cons, inductionHypothesis]
    · rw [List.length_modifyHead, inductionHypothesis]

/-! ## Line ends -/

/-- How many line ends a text holds. -/
def lineEnds (text : String) : Nat := text.toList.count '\n'

@[simp] theorem lineEnds_append (text more : String) :
    lineEnds (text ++ more) = lineEnds text + lineEnds more := by
  rw [lineEnds, String.toList_append, List.count_append]
  rfl

theorem lineEnds_eq_zero_iff {text : String} : lineEnds text = 0 ↔ '\n' ∉ text.toList :=
  List.count_eq_zero

/-- Line ends are displayed. -/
theorem lineEnds_displayable (text : String) : lineEnds (displayable text) = lineEnds text := by
  rw [lineEnds, displayable, String.toList_ofList]
  exact List.count_filter (by decide)

theorem notMem_fillTabs {column : Nat} {pieces : List (List Char)}
    (absent : ∀ piece ∈ pieces, '\n' ∉ piece) : '\n' ∉ fillTabs column pieces := by
  induction pieces generalizing column with
  | nil => exact List.not_mem_nil
  | cons piece rest inductionHypothesis =>
    obtain ⟨here, later⟩ := List.forall_mem_cons.1 absent
    cases rest with
    | nil => exact here
    | cons next others =>
      rw [fillTabs, List.mem_append, List.mem_cons, List.mem_append, List.mem_replicate]
      · have blank : '\n' ≠ ' ' := by decide
        rintro (inside | same | ⟨-, same⟩ | behind)
        · exact here inside
        · exact blank same
        · exact blank same
        · exact inductionHypothesis later behind
      · exact nofun

/-- Tabs are filled up with blanks. -/
theorem notMem_expandTabs {line : List Char} (absent : '\n' ∉ line) : '\n' ∉ expandTabs line := by
  refine notMem_fillTabs fun piece member inside => absent ?_
  rw [splitChars_eq_splitOn] at member
  exact (mem_of_mem_splitOn member _ inside).1

/-- What is printed for a text has the line ends of the text and one behind it. -/
theorem lineEnds_printed (text : String) : lineEnds (printed text) = lineEnds text + 1 := by
  have single : ∀ line ∈ (displayable text).toList.splitOn '\n',
      (List.count '\n' ∘ fun line => expandTabs line ++ ['\n']) line = 1 := by
    intro line member
    have absent := notMem_expandTabs (notMem_of_mem_splitOn member)
    rw [Function.comp_apply, List.count_append, List.count_eq_zero.2 absent]
    rfl
  rw [← lineEnds_displayable text, lineEnds, lineEnds, printed, String.toList_ofList,
    splitChars_eq_splitOn, ← length_splitOn, List.count_flatMap]
  rw [List.map_congr_left single, List.map_const', List.sum_replicate_nat, Nat.mul_one]

end DiceTray.Text
