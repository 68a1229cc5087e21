import DiceTray.Proofs.Expression.Reading
import DiceTray.Proofs.Number.Numeral
import Mathlib.Tactic.IntervalCases

/-!
# Canonical texts

The canonical text of an expression is the text of a phrase that normalization leaves alone, so
reading it gives the expression back. The expressions for which that can be said are those that some
text writes: they are sensible, and each of their numbers may be written.
-/

namespace DiceTray.Expression

open Text

/-- Each number of an expression may be written. -/
def Writable (expression : Expression) : Prop :=
  DiceTray.Writable expression.count ∧ DiceTray.Writable expression.sides ∧
    DiceTray.Writable expression.modifier ∧ DiceTray.Writable expression.repetitions

instance (expression : Expression) : Decidable expression.Writable :=
  inferInstanceAs (Decidable (_ ∧ _ ∧ _ ∧ _))

/-- Characters that normalization leaves alone wherever they stand. -/
def IsNormal (c : Char) : Prop := isBlank c = false ∧ c ≠ '\u03A3' ∧ lowerChar c = [c]

instance (c : Char) : Decidable (IsNormal c) := inferInstanceAs (Decidable (_ ∧ _ ∧ _))

theorem isNormal_of_isDigit {c : Char} (digit : c.isDigit = true) : IsNormal c := by
  have all : ∀ code, 48 ≤ code → code ≤ 57 → IsNormal (Char.ofNat code) := by
    intro code least most
    interval_cases code <;> decide
  simp only [Char.isDigit, Bool.and_eq_true, decide_eq_true_eq, UInt32.le_iff_toNat_le] at digit
  exact Char.ofNat_toNat c ▸ all c.toNat digit.1 digit.2

/-- They stay in front of whatever follows them. -/
theorem lowercaseAfter_append_of_isNormal (before : List Char) {start : List Char}
    (normal : ∀ c ∈ start, IsNormal c) (rest : List Char) :
    lowercaseAfter before (start ++ rest) =
      start ++ lowercaseAfter (start.reverse ++ before) rest := by
  induction start generalizing before with
  | nil => rfl
  | cons c start inductionHypothesis =>
    obtain ⟨⟨-, other, fixed⟩, later⟩ := List.forall_mem_cons.1 normal
    rw [List.cons_append, lowercaseAfter, if_neg other, fixed, inductionHypothesis _ later,
      List.reverse_cons, List.append_assoc]
    rfl

theorem lowercaseAfter_of_isNormal (before : List Char) {cs : List Char}
    (normal : ∀ c ∈ cs, IsNormal c) : lowercaseAfter before cs = cs := by
  have alone := lowercaseAfter_append_of_isNormal before normal []
  rwa [List.append_nil, lowercaseAfter_nil, List.append_nil] at alone

theorem filter_of_isNormal {cs : List Char} (normal : ∀ c ∈ cs, IsNormal c) :
    cs.filter (fun c => !isBlank c) = cs :=
  List.filter_eq_self.2 fun c member => by simp [(normal c member).1]

/-- Texts of such characters are normal. -/
theorem normalizeChars_of_isNormal {cs : List Char} (normal : ∀ c ∈ cs, IsNormal c) :
    normalizeChars cs = cs := by
  rw [normalizeChars, filter_of_isNormal normal]
  exact lowercaseAfter_of_isNormal [] normal

/-- The digits with which the size of an integer is written. -/
def DigitRun.ofInt (n : Int) (writable : DiceTray.Writable n) : DigitRun where
  digits := Nat.toDigits 10 n.natAbs
  nonempty := Nat.toDigits_ne_nil
  areDigits _ := isDigit_of_mem_toDigits
  withinLimit := writable

@[simp] theorem DigitRun.value_ofInt (n : Int) (writable : DiceTray.Writable n) :
    (ofInt n writable).value = n.natAbs :=
  numeral_toDigits n.natAbs

/-- The digits that are written are normal. -/
theorem DigitRun.isNormal_ofInt {n : Int} {writable : DiceTray.Writable n} {c : Char}
    (member : c ∈ (ofInt n writable).digits) : IsNormal c :=
  isNormal_of_isDigit (Nat.isDigit_of_mem_toDigits (by decide) (by decide) member)

/-- The sign with which an integer is written. -/
def Sign.ofInt (n : Int) : Sign := if n < 0 then .minus else .plus

theorem Sign.apply_ofInt (n : Int) : (Sign.ofInt n).apply n.natAbs = n := by
  unfold Sign.ofInt
  split <;> simp only [Sign.apply] <;> omega

theorem Sign.char_ofInt (n : Int) : (Sign.ofInt n).char = if n < 0 then '-' else '+' := by
  unfold Sign.ofInt
  split <;> rfl

/-- The phrase of an expression: what would say nothing is left out, and repetitions are marked by a
star. -/
def Phrase.ofExpression (expression : Expression) (sensible : expression.Sensible)
    (writable : expression.Writable) : Phrase where
  count := some (.ofInt expression.count writable.1)
  sides := .ofInt expression.sides writable.2.1
  reroll := expression.reroll
  modifier :=
    if expression.modifier = 0 then none
    else some (.ofInt expression.modifier, .ofInt expression.modifier writable.2.2.1)
  repetitions :=
    if expression.repetitions = 1 then none
    else some (.star, .ofInt expression.repetitions writable.2.2.2)
  count_pos run found := by
    cases found
    have positive := sensible.1
    simp only [DigitRun.value_ofInt]
    omega
  two_le_sides := by
    have enough := sensible.2.1
    simp only [DigitRun.value_ofInt]
    omega
  repetitions_pos part found := by
    have positive := sensible.2.2
    split at found
    · cases found
    · cases found
      simp only [DigitRun.value_ofInt]
      omega

section Canonical

variable {expression : Expression} (sensible : expression.Sensible)
  (writable : expression.Writable)

/-- The phrase of an expression writes that expression. -/
theorem Phrase.expression_ofExpression :
    (Phrase.ofExpression expression sensible writable).expression = expression := by
  obtain ⟨count, sides, reroll, modifier, repetitions⟩ := expression
  obtain ⟨positive, enough, repeated⟩ := sensible
  simp only at positive enough repeated
  simp only [Phrase.expression, Phrase.ofExpression, Option.map_some, Option.getD_some,
    DigitRun.value_ofInt, Expression.mk.injEq, true_and]
  refine ⟨by omega, by omega, ?_, ?_⟩
  · by_cases zero : modifier = 0 <;> simp [zero, Sign.apply_ofInt]
  · by_cases one : repetitions = 1 <;> simp [one]
    omega

/-- The text of that phrase is the canonical text. -/
theorem canonical_eq_text :
    expression.canonical = .ok (Phrase.ofExpression expression sensible writable).text := by
  obtain ⟨positive, enough, repeated⟩ := sensible
  obtain ⟨count, sides, modifier, repetitions⟩ := writable
  have counted : 0 ≤ expression.count := by omega
  have sided : 0 ≤ expression.sides := by omega
  have rounds : 0 ≤ expression.repetitions := by omega
  simp only [canonical, writeInteger_of_writable, writeSigned_of_writable, count, sides, modifier,
    repetitions, ok_bind, decimal_of_nonneg, signedDecimal_eq, counted, sided, rounds,
    ← Sign.char_ofInt]
  -- Each of the three optional parts is there or not, and so it is in the phrase.
  by_cases zero : expression.modifier = 0 <;> by_cases one : expression.repetitions = 1 <;>
    cases reroll : expression.reroll <;>
    simp [zero, one, reroll, pure, Except.pure, bind, Except.bind, Functor.map, Except.map,
      ← String.toList_inj, Phrase.text, Phrase.chars, Phrase.tail, Phrase.ofExpression, countChars,
      rerollChars, modifierChars, repetitionChars, DigitRun.ofInt, RepeatForm.opening,
      RepeatForm.closing]

/-- Its characters are normal. -/
theorem isNormal_of_mem_chars {c : Char}
    (member : c ∈ (Phrase.ofExpression expression sensible writable).chars) : IsNormal c := by
  simp only [Phrase.chars, Phrase.tail, List.mem_append, List.mem_cons] at member
  rcases member with count | rfl | sides | reroll | modifier | repetitions
  · exact DigitRun.isNormal_ofInt count
  · decide
  · exact DigitRun.isNormal_ofInt sides
  · simp only [rerollChars] at reroll
    split at reroll
    · rw [List.mem_singleton.1 reroll]
      decide
    · cases reroll
  · simp only [Phrase.ofExpression] at modifier
    split at modifier
    · cases modifier
    · rcases List.mem_cons.1 modifier with rfl | digit
      · cases Sign.ofInt expression.modifier <;> decide
      · exact DigitRun.isNormal_ofInt digit
  · simp only [Phrase.ofExpression] at repetitions
    split at repetitions
    · cases repetitions
    · simp only [repetitionChars, RepeatForm.opening, RepeatForm.closing, List.append_nil,
        List.mem_cons] at repetitions
      rcases repetitions with rfl | digit
      · decide
      · exact DigitRun.isNormal_ofInt digit

end Canonical

/-- Sensible expressions that can be written have a canonical text, which is normal and reads back.
-/
theorem exists_canonical {expression : Expression} (sensible : expression.Sensible)
    (writable : expression.Writable) :
    ∃ text, expression.canonical = .ok text ∧ normalize text = text ∧
      parse text = .ok expression := by
  let phrase := Phrase.ofExpression expression sensible writable
  have normal : normalize phrase.text = phrase.text := by
    rw [normalize, Phrase.text, String.toList_ofList,
      normalizeChars_of_isNormal fun _ => isNormal_of_mem_chars sensible writable]
  refine ⟨phrase.text, canonical_eq_text sensible writable, normal, ?_⟩
  exact parse_eq_ok_iff.2
    ⟨phrase, normal.symm, Phrase.expression_ofExpression sensible writable⟩

/-- The number that a run writes may be written again. -/
theorem DigitRun.writable_value (run : DigitRun) : DiceTray.Writable run.value :=
  writable_numeral run.withinLimit

theorem writable_one : DiceTray.Writable 1 := by decide

/-- What a phrase writes is sensible. -/
theorem Phrase.sensible (phrase : Phrase) : phrase.expression.Sensible := by
  obtain ⟨count, sides, reroll, modifier, repetitions, positive, enough, repeated⟩ := phrase
  refine ⟨?_, by simpa [Phrase.expression] using Int.ofNat_le.2 enough, ?_⟩
  · cases count with
    | none => exact Int.le_refl 1
    | some run => exact Int.ofNat_le.2 (positive run rfl)
  · cases repetitions with
    | none => exact Int.le_refl 1
    | some part => exact Int.ofNat_le.2 (repeated part rfl)

/-- Each number that a phrase writes may be written again. -/
theorem Phrase.writable (phrase : Phrase) : phrase.expression.Writable := by
  obtain ⟨count, sides, reroll, modifier, repetitions, -, -, -⟩ := phrase
  refine ⟨?_, sides.writable_value, ?_, ?_⟩
  · cases count with
    | none => exact writable_one
    | some run => exact run.writable_value
  · match modifier with
    | none => exact (by decide : DiceTray.Writable 0)
    | some (.plus, run) => exact run.writable_value
    | some (.minus, run) => exact writable_neg.2 run.writable_value
  · cases repetitions with
    | none => exact writable_one
    | some part => exact part.2.writable_value

/-- What is read from a text is sensible and can be written. -/
theorem legible_of_parse {text : String} {expression : Expression}
    (read : parse text = .ok expression) : expression.Sensible ∧ expression.Writable := by
  obtain ⟨phrase, -, rfl⟩ := parse_eq_ok_iff.1 read
  exact ⟨phrase.sensible, phrase.writable⟩

/-- Sensible expressions that can be written have a normal text that reads back as themselves. What
was read from a text is such an expression, so canonical texts are equal exactly when the
expressions are. -/
theorem canonical_round_trip :
    (∀ expression : Expression, expression.Sensible → expression.Writable →
      ∃ text, expression.canonical = .ok text ∧ normalize text = text ∧
        parse text = .ok expression) ∧
    (∀ text expression, parse text = .ok expression →
      ∃ canonical, expression.canonical = .ok canonical ∧ parse canonical = .ok expression) ∧
    (∀ first second left right, parse first = .ok left → parse second = .ok right →
      (left.canonical = right.canonical ↔ left = right)) := by
  refine ⟨fun _ => exists_canonical, fun text expression read => ?_, ?_⟩
  · obtain ⟨sensible, writable⟩ := legible_of_parse read
    obtain ⟨canonical, written, -, reread⟩ := exists_canonical sensible writable
    exact ⟨canonical, written, reread⟩
  · intro first second left right readLeft readRight
    refine ⟨fun same => ?_, congrArg canonical⟩
    obtain ⟨sensible, writable⟩ := legible_of_parse readLeft
    obtain ⟨sensible', writable'⟩ := legible_of_parse readRight
    obtain ⟨text, written, -, reread⟩ := exists_canonical sensible writable
    obtain ⟨text', written', -, reread'⟩ := exists_canonical sensible' writable'
    have texts : text = text' := Except.ok.inj (written.symm.trans (same.trans written'))
    exact Except.ok.inj (reread.symm.trans (texts ▸ reread'))

/-- The same for a roll with every part, and for two rolls that differ. -/
theorem canonical_round_trip_with_every_part :
    (∃ text, Expression.canonical ⟨2, 6, true, -3, 4⟩ = .ok text ∧ normalize text = text ∧
      parse text = .ok ⟨2, 6, true, -3, 4⟩) ∧
    (∃ canonical, Expression.canonical ⟨2, 6, true, -3, 4⟩ = .ok canonical ∧
      parse canonical = .ok ⟨2, 6, true, -3, 4⟩) ∧
    (Expression.canonical ⟨2, 6, true, -3, 4⟩ = Expression.canonical ⟨2, 6, false, -3, 4⟩ ↔
      (⟨2, 6, true, -3, 4⟩ : Expression) = ⟨2, 6, false, -3, 4⟩) := by
  have rerolled : parse "2D6 r-3*4" = .ok ⟨2, 6, true, -3, 4⟩ := by decide +kernel
  have kept : parse "02d6-3[4]" = .ok ⟨2, 6, false, -3, 4⟩ := by decide +kernel
  exact ⟨canonical_round_trip.1 _ (by decide) (by decide), canonical_round_trip.2.1 _ _ rerolled,
    canonical_round_trip.2.2 _ _ _ _ rerolled kept⟩

end DiceTray.Expression
