import DiceTray.Proofs.Expression.RoundTrip
import DiceTray.Proofs.History.Decoding
import DiceTray.Report

/-!
# Reading explanations

What the explanation of a roll tells can be read back: a decoder takes it apart at its separators
and gets the expression and all results. A colon ends the canonical text, semicolons stand between
the results, brackets around their dice and commas between the dice, and none of these stands in
what it separates.
-/

namespace DiceTray

open Text

/-- Separators with a blank behind each, and a blank before the first part, are separators between
parts that begin with a blank. -/
theorem blank_append_intercalate (between first : String) (rest : List String) :
    " " ++ (between ++ " ").intercalate (first :: rest) =
      between.intercalate ((first :: rest).map (" " ++ ·)) := by
  induction rest generalizing first with
  | nil => simp
  | cons next rest inductionHypothesis =>
    rw [List.map_cons, List.map_cons, String.intercalate_cons_cons, String.intercalate_cons_cons,
      ← List.map_cons, ← inductionHypothesis]
    simp only [String.append_assoc]

/-- A blank before an integer changes nothing. -/
theorem readInteger_blank {text : String} {n : Int} (read : readInteger text = .ok n) :
    readInteger (" " ++ text) = .ok n := by
  have skipped : (" " ++ text).toList.dropWhile isMargin = text.toList.dropWhile isMargin := by
    rw [String.toList_append]
    exact List.dropWhile_cons_of_pos (by decide)
  unfold readInteger at read ⊢
  rw [skipped]
  dsimp only at read ⊢
  split at read
  · cases read
  · next well =>
    rw [if_neg well]
    split at read
    · cases read
    · next short =>
      rw [if_neg short]
      split at read
      · cases read
      · next alone =>
        rw [if_neg alone]
        exact read

/-- No character of the text of a phrase is any other than digits and the marks of its parts. -/
theorem Expression.Phrase.mem_chars (phrase : Phrase) {c : Char} (member : c ∈ phrase.chars) :
    isDigit c = true ∨ c ∈ ['d', 'r', '+', '-', '*', '[', ']'] := by
  simp only [Phrase.chars, Phrase.tail, List.mem_append, List.mem_cons] at member
  rcases member with count | rfl | sides | reroll | modifier | repetitions
  · exact .inl (countChars_areDigits phrase.count c count)
  · exact .inr (by decide)
  · exact .inl (phrase.sides.areDigits c sides)
  · rw [rerollChars] at reroll
    split at reroll
    · rw [List.mem_singleton.1 reroll]
      exact .inr (by decide)
    · cases reroll
  · rcases written : phrase.modifier with - | ⟨sign, run⟩ <;> rw [written] at modifier
    · cases modifier
    · rcases List.mem_cons.1 modifier with rfl | digit
      · cases sign <;> exact .inr (by decide)
      · exact .inl (run.areDigits c digit)
  · rcases written : phrase.repetitions with - | ⟨form, run⟩ <;> rw [written] at repetitions
    · cases repetitions
    · rw [repetitionChars, List.mem_cons, List.mem_append] at repetitions
      rcases repetitions with rfl | digit | closing
      · cases form <;> exact .inr (by decide)
      · exact .inl (run.areDigits c digit)
      · cases form
        · cases closing
        · rw [List.mem_singleton.1 closing]
          exact .inr (by decide)

namespace Report

/-- The values between the brackets of an explained result. -/
def readRolls (text : String) : Option (List Int) :=
  match piecesAt '[' text with
  | [_, opened] =>
    match piecesAt ']' opened with
    | [rolls, _] => History.decodeValues (" " ++ rolls)
    | _ => none
  | _ => none

/-- The expression and the results that an explanation tells of. -/
def readExplanation (text : String) : Option (Expression × List Result) :=
  match piecesAt ':' text with
  | [canonical, explanations] => do
    let expression ← (Expression.parse canonical).toOption
    let results ← (piecesAt ';' explanations).mapM fun explanation =>
      (readRolls explanation).map (Result.ofRolls expression.modifier)
    return (expression, results)
  | _ => none

variable {result : Result} {text : String}

/-- What an explanation says behind the dice of a result: its modifier, unless it is zero, and its
total. -/
def outcome (result : Result) : String :=
  (if result.modifier = 0 then "" else " " ++ signedDecimal result.modifier) ++
    " => " ++ decimal result.total

/-- The parts of an explained result: brackets set off its dice. -/
theorem exists_of_explain (explained : result.explain = .ok text) :
    ∃ rolls, result.rolls.mapM writeInteger = .ok rolls ∧
      text = "[".intercalate
        ["rolls ", "]".intercalate [", ".intercalate rolls, outcome result]] := by
  have parts (rolls added total : String) : "rolls [" ++ rolls ++ "]" ++ added ++ " => " ++ total =
      "[".intercalate ["rolls ", "]".intercalate [rolls, added ++ " => " ++ total]] := by
    simp only [String.intercalate_cons_cons, String.intercalate_singleton, String.append_assoc]
    rfl
  rw [Result.explain] at explained
  obtain ⟨rolls, listed, explained⟩ := bind_eq_ok_iff.1 explained
  refine ⟨rolls, listed, ?_⟩
  dsimp only at explained
  split at explained
  · next zero =>
    obtain ⟨added, none, explained⟩ := bind_eq_ok_iff.1 explained
    cases none
    obtain ⟨total, summed, same⟩ := bind_eq_ok_iff.1 explained
    cases same
    rw [(writeInteger_eq_ok_iff.1 summed).2, outcome, if_pos zero]
    exact parts _ _ _
  · next shown =>
    obtain ⟨added, wrote, explained⟩ := bind_eq_ok_iff.1 explained
    obtain ⟨signed, written, rfl⟩ := map_eq_ok_iff.1 wrote
    obtain ⟨total, summed, same⟩ := bind_eq_ok_iff.1 explained
    cases same
    rw [(writeInteger_eq_ok_iff.1 summed).2, (writeSigned_eq_ok_iff.1 written).2, outcome,
      if_neg shown]
    exact parts _ _ _

/-- Characters that set off what an explanation tells of. -/
def separators : List Char := ['[', ']', ':', ';']

/-- Integers are written without separators, and none stands in what is put around them. -/
theorem ne_of_mem_separators : ∀ c ∈ separators, c ≠ '+' ∧ c ≠ '-' ∧ c.isDigit = false ∧
    c ∉ " => ".toList ∧ c ∉ ", ".toList ∧ c ∉ "rolls ".toList := by
  intro c member
  simp only [separators, List.mem_cons, List.not_mem_nil, or_false] at member
  rcases member with rfl | rfl | rfl | rfl <;> decide

/-- No separator stands behind the dice of a result. -/
theorem notMem_outcome {c : Char} (separator : c ∈ separators) : c ∉ (outcome result).toList := by
  obtain ⟨plus, minus, noDigit, arrow, comma, -⟩ := ne_of_mem_separators c separator
  have unsigned (n : Int) : c ∉ (decimal n).toList := fun member =>
    (mem_decimal member).elim minus fun digit => nomatch noDigit.symm.trans digit
  have signed (n : Int) : c ∉ (signedDecimal n).toList := by
    rw [signedDecimal]
    split
    · exact unsigned n
    · rw [String.toList_append, List.mem_append, not_or]
      exact ⟨fun member => plus (List.mem_singleton.1 member), unsigned n⟩
  simp only [outcome, String.toList_append, List.mem_append, not_or]
  refine ⟨⟨?_, arrow⟩, unsigned _⟩
  split
  · exact List.not_mem_nil
  · rw [String.toList_append, List.mem_append, not_or]
    exact ⟨fun blank => comma (List.mem_cons_of_mem ',' blank), signed _⟩

/-- No separator stands between the brackets. -/
theorem notMem_rolls {values : List Int} {rolls : List String} {c : Char}
    (separator : c ∈ separators) (listed : values.mapM writeInteger = .ok rolls) :
    c ∉ (", ".intercalate rolls).toList := by
  obtain ⟨-, minus, noDigit, -, comma, -⟩ := ne_of_mem_separators c separator
  exact notMem_intercalate comma (History.notMem_of_mapM_writeInteger listed minus noDigit)

/-- A bracket in an explained result is one that sets off its dice. -/
theorem notMem_of_explain (explained : result.explain = .ok text) {c : Char}
    (separator : c ∈ separators) (opening : c ∉ "[".toList) (closing : c ∉ "]".toList) :
    c ∉ (" " ++ text).toList := by
  obtain ⟨-, -, -, -, comma, rolled⟩ := ne_of_mem_separators c separator
  obtain ⟨rolls, listed, rfl⟩ := exists_of_explain explained
  rw [String.toList_append, List.mem_append, not_or]
  exact ⟨fun blank => comma (List.mem_cons_of_mem ',' blank),
    notMem_pair opening rolled
      (notMem_pair closing (notMem_rolls separator listed) (notMem_outcome separator))⟩

/-- The dice of a result are read back from its explanation. -/
theorem readRolls_of_explain (present : result.rolls ≠ []) (explained : result.explain = .ok text) :
    readRolls (" " ++ text) = some result.rolls := by
  obtain ⟨rolls, listed, rfl⟩ := exists_of_explain explained
  have opened : piecesAt '[' ("[".intercalate
      [" " ++ "rolls ", "]".intercalate [", ".intercalate rolls, outcome result]]) =
        [" " ++ "rolls ", "]".intercalate [", ".intercalate rolls, outcome result]] :=
    piecesAt_pair (by decide)
      (notMem_pair (by decide) (notMem_rolls (by decide) listed) (notMem_outcome (by decide)))
  have closed : piecesAt ']' ("]".intercalate [", ".intercalate rolls, outcome result]) =
      [", ".intercalate rolls, outcome result] :=
    piecesAt_pair (notMem_rolls (by decide) listed) (notMem_outcome (by decide))
  have back : rolls.mapM (fun text => (readInteger (" " ++ text)).toOption) = some result.rolls :=
    mapM_of_mapM (fun value _ text wrote => by
      obtain ⟨writable, rfl⟩ := writeInteger_eq_ok_iff.1 wrote
      rw [readInteger_blank (readInteger_decimal writable)]
      rfl) listed
  have values : History.decodeValues (" " ++ ", ".intercalate rolls) = some result.rolls := by
    obtain - | ⟨first, rest⟩ := rolls
    · exact absurd (Option.some.inj back).symm present
    · have parted : piecesAt ',' (",".intercalate ((first :: rest).map (" " ++ ·))) =
          (first :: rest).map (" " ++ ·) := by
        refine piecesAt_intercalate (List.cons_ne_nil _ _) fun part member => ?_
        obtain ⟨value, among, rfl⟩ := List.mem_map.1 member
        rw [String.toList_append, List.mem_append, not_or]
        exact ⟨by decide,
          History.notMem_of_mapM_writeInteger listed (by decide) (by decide) value among⟩
      rw [History.decodeValues, show ", " = "," ++ " " from rfl, blank_append_intercalate, parted,
        List.mapM_map]
      exact back
  rw [← String.intercalate_cons_append, readRolls, opened]
  dsimp only
  rw [closed]
  exact values

/-- An explanation is read back when its results are of its expression and each of them has dice. -/
theorem readExplanation_of_explain {expression : Expression} {canonical : String}
    {results : List Result} {explanations : List String} (sensible : expression.Sensible)
    (writable : expression.Writable) (written : expression.canonical = .ok canonical)
    (explained : results.mapM Result.explain = .ok explanations) (present : results ≠ [])
    (made : ∀ result ∈ results, result.rolls ≠ [] ∧
      result = .ofRolls expression.modifier result.rolls) :
    readExplanation (canonical ++ ": " ++ "; ".intercalate explanations) =
      some (expression, results) := by
  have reread : Expression.parse canonical = .ok expression := by
    obtain ⟨text, same, -, read⟩ := Expression.exists_canonical sensible writable
    cases written.symm.trans same
    exact read
  have solid : ':' ∉ canonical.toList := by
    cases written.symm.trans (Expression.canonical_eq_text sensible writable)
    rw [Expression.Phrase.text, String.toList_ofList]
    exact fun member => (Expression.Phrase.mem_chars _ member).elim
      (fun digit => absurd digit (by decide)) (fun mark => absurd mark (by decide))
  have back : explanations.mapM (fun text =>
      (readRolls (" " ++ text)).map (Result.ofRolls expression.modifier)) = some results :=
    mapM_of_mapM (fun result member text wrote => by
      obtain ⟨rolled, same⟩ := made result member
      rw [readRolls_of_explain rolled wrote, Option.map_some, ← same]) explained
  have apart (c : Char) (separator : c ∈ separators) (opening : c ∉ "[".toList)
      (closing : c ∉ "]".toList) : ∀ text ∈ explanations, c ∉ (" " ++ text).toList :=
    forall_mem_of_mapM (fun _ _ _ wrote => notMem_of_explain wrote separator opening closing)
      explained
  obtain - | ⟨first, rest⟩ := explanations
  · exact absurd (Option.some.inj back).symm present
  · have parts : canonical ++ ": " ++ "; ".intercalate (first :: rest) =
        ":".intercalate [canonical, ";".intercalate ((first :: rest).map (" " ++ ·))] := by
      rw [← blank_append_intercalate, String.intercalate_cons_cons, String.intercalate_singleton]
      simp only [String.append_assoc]
      rfl
    have colon : piecesAt ':'
        (":".intercalate [canonical, ";".intercalate ((first :: rest).map (" " ++ ·))]) =
          [canonical, ";".intercalate ((first :: rest).map (" " ++ ·))] :=
      piecesAt_pair solid (notMem_intercalate (by decide)
        (List.forall_mem_map.2 (apart ':' (by decide) (by decide) (by decide))))
    have semicolons : piecesAt ';' (";".intercalate ((first :: rest).map (" " ++ ·))) =
        (first :: rest).map (" " ++ ·) :=
      piecesAt_intercalate (List.cons_ne_nil _ _)
        (List.forall_mem_map.2 (apart ';' (by decide) (by decide) (by decide)))
    have listed : ((first :: rest).map (" " ++ ·)).mapM (fun explanation =>
        (readRolls explanation).map (Result.ofRolls expression.modifier)) = some results :=
      List.mapM_map.trans back
    rw [parts, readExplanation, colon]
    dsimp only
    rw [reread, semicolons, Except.toOption, Option.bind_eq_bind, Option.bind_some, listed]
    rfl

example : readExplanation "2d6-1: rolls [3, 4] -1 => 6" =
    some (⟨2, 6, false, -1, 1⟩, [⟨[3, 4], -1, 6⟩]) := by decide +kernel

end Report

end DiceTray
