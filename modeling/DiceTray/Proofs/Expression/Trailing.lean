import DiceTray.Proofs.Expression.Normalization
import DiceTray.Proofs.Expression.Refusal

/-!
# What follows an expression

Text that follows an expression is refused as such behind the longest part of the text that is an
expression. The readers of the parts look no further than to the first character behind a part, so
cutting a text off behind that character changes neither where they stop nor what they say, and
cutting it off before that character leaves the expression alone.
-/

namespace DiceTray.Expression

open Text

/-! ## Beginnings of texts -/

/-- The first characters of a text. -/
def front (length : Nat) (text : String) : String := String.ofList (text.toList.take length)

/-- Beginnings of normalized texts are normalized. -/
theorem normalizeChars_front (length : Nat) (text : String) :
    normalizeChars (front length (normalize text)).toList =
      (normalizeChars text.toList).take length := by
  rw [front, normalize, String.toList_ofList, String.toList_ofList]
  exact normalizeChars_of_subset (List.take_subset _ _)

theorem parse_front (length : Nat) (text : String) :
    parse (front length (normalize text)) =
      (readChars ((normalizeChars text.toList).take length)).mapError
        (report (front length (normalize text)) ((normalizeChars text.toList).take length)) := by
  rw [parse, normalizeChars_front]

/-- A report names the cause for which the normalized text was refused, and is placed where what was
left then begins. -/
theorem exists_refused_of_parse {text : String} {error : ParseError}
    (refused : parse text = .error (.malformed error)) :
    ∃ rest, readChars (normalizeChars text.toList) = .error (.refused error.cause rest) ∧
      error.text = normalize text ∧
      error.position = (normalizeChars text.toList).length - rest.length := by
  obtain ⟨stop, failed, reported⟩ := mapError_eq_error_iff.1 refused
  cases stop with
  | number error => cases reported
  | refused cause rest =>
    cases reported
    exact ⟨rest, failed, rfl, rfl⟩

/-! ## Phrases with text behind them -/

/-- The parts before the repetitions are refused on their own account. -/
theorem kind_of_readOnce {text rest : List Char} {cause : Cause}
    (refused : readOnce text = .error (.refused cause rest)) : cause.kind ≠ .trailing := by
  rw [readOnce] at refused
  rcases bind_eq_error_iff.1 refused with failed | ⟨⟨count, afterCount⟩, -, refused⟩
  · rw [((judges_readCount text).refused cause rest failed).2]
    split <;> decide
  rcases bind_eq_error_iff.1 refused with failed | ⟨⟨sides, afterSides⟩, -, refused⟩
  · rw [((judges_readSides afterCount).refused cause rest failed).2]
    decide
  rcases bind_eq_error_iff.1 refused with failed | ⟨⟨modifier, afterModifier⟩, -, refused⟩
  · rw [((judges_readModifier _).refused cause rest failed).2]
    decide
  · cases refused

/-- Where text that follows is refused, a phrase stands before it, and its reader stopped there. -/
theorem exists_phrase_of_trailing {text rest : List Char} {cause : Cause}
    (refused : readChars text = .error (.refused cause rest)) (trailing : cause.kind = .trailing) :
    ∃ phrase : Phrase, text = phrase.chars ++ rest ∧ rest ≠ [] ∧ phrase.StopsBefore rest := by
  rw [readChars_eq_bind] at refused
  rcases bind_eq_error_iff.1 refused with failed | ⟨⟨once, behind⟩, started, refused⟩
  · exact absurd trailing (kind_of_readOnce failed)
  rcases bind_eq_error_iff.1 refused with failed | ⟨⟨repetitions, left⟩, repeated, refused⟩
  · have kind := ((judges_readRepetitions behind).refused cause rest failed).2
    cases kind.symm.trans trailing
  simp only at refused
  split at refused
  · cases refused
  · next more =>
    cases refused
    obtain ⟨phrase, parted, -, stops⟩ := exists_phrase_of_readRepetitions started repeated
    exact ⟨phrase, parted, fun none => more (List.isEmpty_iff.2 none), stops⟩

theorem Phrase.chars_length_pos (phrase : Phrase) : 0 < phrase.chars.length := by
  simp [Phrase.chars]

section Cut

variable {phrase : Phrase} {rest : List Char}

/-- A phrase that is followed by text is read alone when the text is cut off at its end. -/
theorem readChars_take_length (rest : List Char) :
    readChars ((phrase.chars ++ rest).take phrase.chars.length) = .ok phrase.expression := by
  rw [List.take_left]
  exact readChars_chars phrase

/-- When the text is cut off behind that, what is left of it is refused at the same place. -/
theorem readChars_take_of_stopsBefore (stops : phrase.StopsBefore rest) {length : Nat}
    (beyond : phrase.chars.length < length) (within : length ≤ (phrase.chars ++ rest).length) :
    ∃ left, (phrase.chars ++ rest).take length = phrase.chars ++ left ∧
      readChars (phrase.chars ++ left) =
        .error (.refused (.trailing (String.ofList left)) left) := by
  rw [List.length_append] at within
  refine ⟨rest.take (length - phrase.chars.length), ?_, ?_⟩
  · rw [List.take_append, List.take_of_length_le (Nat.le_of_lt beyond)]
  · have stops' : phrase.StopsBefore (rest.take (length - phrase.chars.length)) := by
      apply stops.of_head
      intro c first
      rw [List.head?_take, if_neg (by omega)] at first
      exact first
    have more : ¬ (rest.take (length - phrase.chars.length)).isEmpty = true := by
      rw [List.isEmpty_iff_length_eq_zero, List.length_take]
      omega
    rw [readChars_append stops', if_neg more]

end Cut

/-- Text that follows an expression is reported behind the longest beginning of the normalized text
that is an expression: the part before it is one and is not empty, and every longer beginning is
refused for the text that follows, at the same place. -/
theorem trailing_follows_longest_expression {text : String} {error : ParseError}
    (refused : parse text = .error (.malformed error)) (trailing : error.cause.kind = .trailing) :
    0 < error.position ∧ error.position < (normalize text).length ∧
      (∃ expression, parse (front error.position (normalize text)) = .ok expression) ∧
      (∀ length, error.position < length → length ≤ (normalize text).length →
        ∃ later, parse (front length (normalize text)) = .error (.malformed later) ∧
          later.cause.kind = .trailing ∧ later.position = error.position) ∧
      ∀ length expression, length ≤ (normalize text).length →
        parse (front length (normalize text)) = .ok expression → length ≤ error.position := by
  obtain ⟨rest, failed, -, placed⟩ := exists_refused_of_parse refused
  obtain ⟨phrase, parted, more, stops⟩ := exists_phrase_of_trailing failed trailing
  have size : (normalize text).length = (phrase.chars ++ rest).length := by
    rw [normalize, String.length_ofList, parted]
  have place : error.position = phrase.chars.length := by
    rw [placed, parted, List.length_append, Nat.add_sub_cancel]
  have longer : ∀ length, phrase.chars.length < length → length ≤ (normalize text).length →
      ∃ later, parse (front length (normalize text)) = .error (.malformed later) ∧
        later.cause.kind = .trailing ∧ later.position = phrase.chars.length := by
    intro length beyond within
    obtain ⟨left, cut, read⟩ := readChars_take_of_stopsBefore stops beyond (size ▸ within)
    rw [parse_front, parted, cut, read]
    refine ⟨_, rfl, rfl, ?_⟩
    rw [List.length_append, Nat.add_sub_cancel]
  rw [place]
  refine ⟨phrase.chars_length_pos, ?_, ⟨phrase.expression, ?_⟩, longer, ?_⟩
  · have behind : 0 < rest.length := List.length_pos_of_ne_nil more
    rw [size, List.length_append]
    omega
  · rw [parse_front, parted, readChars_take_length]
    rfl
  · intro length expression within read
    refine Nat.le_of_not_lt fun beyond => ?_
    obtain ⟨later, refused, -⟩ := longer length beyond within
    cases read.symm.trans refused

/-- A mark for rerolls that stands too late: the expression ends in front of it. -/
theorem trailing_follows_longest_expression_of_late_mark :
    parse " 2D6+1 r*3" = .error (.malformed ⟨.trailing "r*3", "2d6+1r*3", " 2D6+1 r*3", 5⟩) ∧
      (∃ expression, parse (front 5 (normalize " 2D6+1 r*3")) = .ok expression) ∧
      ∃ later, parse (front 7 (normalize " 2D6+1 r*3")) = .error (.malformed later) ∧
        later.cause.kind = .trailing ∧ later.position = 5 := by
  have refused : parse " 2D6+1 r*3" =
      .error (.malformed ⟨.trailing "r*3", "2d6+1r*3", " 2D6+1 r*3", 5⟩) := by
    decide +kernel
  obtain ⟨-, -, read, longer, -⟩ := trailing_follows_longest_expression refused rfl
  exact ⟨refused, read, longer 7 (by decide) (by decide +kernel)⟩

end DiceTray.Expression
