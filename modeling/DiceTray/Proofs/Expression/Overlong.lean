import DiceTray.Proofs.Expression.Refusal
import DiceTray.Proofs.Expression.RoundTrip
import DiceTray.Service
import Mathlib.Tactic.SplitIfs

/-!
# Numbers that are too long

Reading a text ends in an expression, in a report on a malformed text, or at a number with more
digits than are read. Which texts end in the last way is said without the reader: a part is only
read where all parts before it are in order, so the run of digits that stops the reader is that of
the first part that is not in order or whose run is too long. All other texts are read or reported,
and what is reported is refused by the service under the code of its kind.
-/

namespace DiceTray.Expression

open Text

/-! ## Where the numbers of a text stand -/

/-- How many digits stand at the front. -/
def leadingDigits (rest : List Char) : Nat := (rest.takeWhile isDigit).length

/-- What stands behind the sign of a modifier; without a sign no number is read. -/
def modifierDigits (rest : List Char) : List Char := if Signed rest then rest.tail else []

/-- What stands behind a star or an opening bracket; without one of them no number is read. -/
def repetitionDigits (rest : List Char) : List Char :=
  if rest.head? = some '*' ∨ rest.head? = some '[' then rest.tail else []

/-- The number of digits at which reading a text stops because they are too many: those of the
leftmost part with too many digits, unless a part before it is not in order. -/
def overlong? (text : List Char) : Option Nat :=
  let sides := afterSeparator text
  let modifier := afterReroll (afterDigits sides)
  let repetitions := afterModifier modifier
  if digitLimit < leadingDigits text then some (leadingDigits text)
  else if 'd' ∉ text ∨ FaultyCount (countPart text) then none
  else if digitLimit < leadingDigits sides then some (leadingDigits sides)
  else if FaultySides sides then none
  else if digitLimit < leadingDigits (modifierDigits modifier) then
    some (leadingDigits (modifierDigits modifier))
  else if FaultyModifier modifier then none
  else if digitLimit < leadingDigits (repetitionDigits repetitions) then
    some (leadingDigits (repetitionDigits repetitions))
  else none

/-! ## What the readers make of them -/

/-- A reader stops at a number exactly when too many digits stand at a place, and tells how many. -/
def Scans {α : Type} (place : List Char) (result : Except Stop α) : Prop :=
  ∀ error, result = .error (.number error) ↔
    digitLimit < leadingDigits place ∧ error = .tooManyDigits (leadingDigits place)

theorem scans_readDigits (cs : List Char) : Scans cs (readDigits cs) := by
  intro error
  simp only [readDigits, leadingDigits]
  split
  · next empty => simp [List.isEmpty_iff.1 empty]
  · split
    · next long => simp [long, eq_comm]
    · next short => simp [short]

/-- What is done with the digits that were read does not stop at a number any more. -/
theorem Scans.bind {α β : Type} {place : List Char} {result : Except Stop α}
    {next : α → Except Stop β} (scans : Scans place result)
    (onward : ∀ value error, next value ≠ .error (.number error)) :
    Scans place (result >>= next) := by
  intro error
  rw [← scans error, bind_eq_error_iff]
  exact or_iff_left fun ⟨value, _, stopped⟩ => onward value error stopped

/-- A reader that never stops at a number scans nothing. -/
theorem scans_nil {α : Type} {result : Except Stop α}
    (onward : ∀ error, result ≠ .error (.number error)) : Scans [] result := by
  intro error
  simp [onward error, leadingDigits]

theorem scans_readCount (text : List Char) : Scans text (readCount text) := by
  refine (scans_readDigits text).bind ?_
  rintro ⟨count, rest⟩ error stopped
  cases rest with
  | nil => cases stopped
  | cons c after =>
    simp only at stopped
    split at stopped
    · split at stopped <;> cases stopped
    · split at stopped <;> cases stopped

theorem scans_readSides (text : List Char) : Scans text (readSides text) := by
  refine (scans_readDigits text).bind ?_
  rintro ⟨sides, rest⟩ error stopped
  cases sides with
  | none => cases stopped
  | some sides =>
    simp only at stopped
    split at stopped <;> cases stopped

theorem scans_readModifier (text : List Char) :
    Scans (modifierDigits text) (readModifier text) := by
  cases text with
  | nil =>
    refine scans_nil fun error stopped => ?_
    cases stopped
  | cons c body =>
    rw [readModifier]
    by_cases sign : c = '+' ∨ c = '-'
    · rw [if_pos sign, modifierDigits, if_pos (signed_cons.2 sign), List.tail_cons]
      refine (scans_readDigits body).bind ?_
      rintro ⟨value, rest⟩ error stopped
      cases value with
      | none => cases stopped
      | some value => cases stopped
    · rw [if_neg sign, modifierDigits, if_neg fun signed => sign (signed_cons.1 signed)]
      refine scans_nil fun error stopped => ?_
      cases stopped

theorem scans_readRepetitions (text : List Char) :
    Scans (repetitionDigits text) (readRepetitions text) := by
  cases text with
  | nil =>
    refine scans_nil fun error stopped => ?_
    cases stopped
  | cons c body =>
    have mark : (some c = some '*' ∨ some c = some '[') ↔ (c = '*' ∨ c = '[') := by simp
    rw [readRepetitions, repetitionDigits, List.head?_cons]
    by_cases opened : c = '*' ∨ c = '['
    · rw [if_pos opened, if_pos (mark.2 opened), List.tail_cons]
      refine (scans_readDigits body).bind ?_
      rintro ⟨- | - | value, rest⟩ error stopped
      · cases stopped
      · cases stopped
      · simp only at stopped
        split at stopped <;> split_ifs at stopped <;> cases stopped
    · rw [if_neg opened, if_neg fun marked => opened (mark.1 marked)]
      refine scans_nil fun error stopped => ?_
      split at stopped <;> cases stopped

/-- What comes of a part: it has too many digits, or it is in order and the reader goes on behind
it, or it is not and is refused. -/
theorem Judges.cases_of_scans {α : Type} {faulty : Prop} {kind : PartKind}
    {place behind : List Char} {result : Except Stop (α × List Char)}
    (judges : Judges faulty kind behind result) (scans : Scans place result) :
    digitLimit < leadingDigits place ∧
        result = .error (.number (.tooManyDigits (leadingDigits place))) ∨
      ¬ digitLimit < leadingDigits place ∧
        (faulty ∧ (∃ cause rest, result = .error (.refused cause rest)) ∨
          ¬ faulty ∧ ∃ value, result = .ok (value, behind)) := by
  by_cases long : digitLimit < leadingDigits place
  · exact .inl ⟨long, (scans _).2 ⟨long, rfl⟩⟩
  · refine .inr ⟨long, ?_⟩
    match result with
    | .error (.number error) => exact absurd ((scans error).1 rfl).1 long
    | .error (.refused cause rest) =>
      exact .inl ⟨(judges.refused cause rest rfl).1, cause, rest, rfl⟩
    | .ok (value, rest) =>
      obtain ⟨inOrder, rfl⟩ := judges.accepted value rest rfl
      exact .inr ⟨inOrder, value, rfl⟩

theorem number_eq_number_iff {α : Type} {digits : Nat} {error : NumberError} :
    (.error (.number (.tooManyDigits digits)) : Except Stop α) = .error (.number error) ↔
      ∃ found, some digits = some found ∧ error = .tooManyDigits found := by
  constructor
  · intro same
    cases same
    exact ⟨digits, rfl, rfl⟩
  · rintro ⟨_, same, rfl⟩
    cases same
    rfl

/-- What is read or refused is stopped at no number. -/
theorem eq_number_iff_of_none {α : Type} {result : Except Stop α} {error : NumberError}
    (onward : result ≠ .error (.number error)) :
    result = .error (.number error) ↔
      ∃ found, (none : Option Nat) = some found ∧ error = .tooManyDigits found :=
  ⟨fun stopped => absurd stopped onward, fun ⟨_, same, _⟩ => nomatch same⟩

/-- The reader stops at the number that is too long, or at none. -/
theorem readChars_eq_number_iff {text : List Char} {error : NumberError} :
    readChars text = .error (.number error) ↔
      ∃ digits, overlong? text = some digits ∧ error = .tooManyDigits digits := by
  unfold readChars overlong?
  -- each part either ends the reading, and with it the search, or hands on what stands behind it
  rcases (judges_readCount text).cases_of_scans (scans_readCount text) with
    ⟨long, read⟩ | ⟨short, ⟨faulty, cause, rest, read⟩ | ⟨inOrder, count, read⟩⟩
  · rw [read, error_bind, if_pos long]
    exact number_eq_number_iff
  · rw [read, error_bind, if_neg short, if_pos faulty]
    exact eq_number_iff_of_none nofun
  simp only [read, ok_bind, if_neg short, if_neg inOrder]
  rcases (judges_readSides _).cases_of_scans (scans_readSides (afterSeparator text)) with
    ⟨long, read⟩ | ⟨short, ⟨faulty, cause, rest, read⟩ | ⟨inOrder, sides, read⟩⟩
  · rw [read, error_bind, if_pos long]
    exact number_eq_number_iff
  · rw [read, error_bind, if_neg short, if_pos faulty]
    exact eq_number_iff_of_none nofun
  simp only [read, ok_bind, if_neg short, if_neg inOrder, readReroll_snd]
  generalize afterReroll (afterDigits (afterSeparator text)) = left
  rcases (judges_readModifier _).cases_of_scans (scans_readModifier left) with
    ⟨long, read⟩ | ⟨short, ⟨faulty, cause, rest, read⟩ | ⟨inOrder, modifier, read⟩⟩
  · rw [read, error_bind, if_pos long]
    exact number_eq_number_iff
  · rw [read, error_bind, if_neg short, if_pos faulty]
    exact eq_number_iff_of_none nofun
  simp only [read, ok_bind, if_neg short, if_neg inOrder]
  rcases (judges_readRepetitions _).cases_of_scans
      (scans_readRepetitions (afterModifier left)) with
    ⟨long, read⟩ | ⟨short, ⟨faulty, cause, rest, read⟩ | ⟨inOrder, repetitions, read⟩⟩
  · rw [read, error_bind, if_pos long]
    exact number_eq_number_iff
  · rw [read, error_bind, if_neg short]
    exact eq_number_iff_of_none nofun
  · simp only [read, ok_bind, if_neg short]
    refine eq_number_iff_of_none fun stopped => ?_
    split at stopped <;> cases stopped

/-! ## The run that is too long -/

theorem afterDigits_suffix (rest : List Char) : afterDigits rest <:+ rest :=
  List.dropWhile_suffix _

theorem afterSeparator_suffix (text : List Char) : afterSeparator text <:+ text :=
  (List.tail_suffix _).trans (List.dropWhile_suffix _)

theorem afterReroll_suffix (rest : List Char) : afterReroll rest <:+ rest := by
  rw [afterReroll]
  split
  · exact List.tail_suffix _
  · exact List.suffix_refl _

theorem afterModifier_suffix (rest : List Char) : afterModifier rest <:+ rest := by
  rw [afterModifier]
  split
  · exact (afterDigits_suffix _).trans (List.tail_suffix _)
  · exact List.suffix_refl _

theorem modifierDigits_suffix (rest : List Char) : modifierDigits rest <:+ rest := by
  rw [modifierDigits]
  split
  · exact List.tail_suffix _
  · exact List.nil_suffix

theorem repetitionDigits_suffix (rest : List Char) : repetitionDigits rest <:+ rest := by
  rw [repetitionDigits]
  split
  · exact List.tail_suffix _
  · exact List.nil_suffix

/-- A text has a run of digits that is longer than those that are read. -/
def HoldsRun (text : List Char) (digits : Nat) : Prop :=
  digitLimit < digits ∧
    ∃ run, run <:+: text ∧ (∀ c ∈ run, isDigit c = true) ∧ run.length = digits

theorem holdsRun_of_suffix {place text : List Char} (behind : place <:+ text)
    (long : digitLimit < leadingDigits place) : HoldsRun text (leadingDigits place) :=
  ⟨long, place.takeWhile isDigit, (List.takeWhile_prefix _).isInfix.trans behind.isInfix,
    fun _ => List.mem_takeWhile_imp, rfl⟩

/-- The reader stops only at digits that the text has, one behind the other. -/
theorem holdsRun_of_overlong? {text : List Char} {digits : Nat}
    (found : overlong? text = some digits) : HoldsRun text digits := by
  have sides := afterSeparator_suffix text
  have modifier := ((afterReroll_suffix _).trans (afterDigits_suffix _)).trans sides
  have repetitions := (afterModifier_suffix _).trans modifier
  simp only [overlong?] at found
  split at found
  · next long =>
    cases found
    exact holdsRun_of_suffix (List.suffix_refl text) long
  split at found
  · cases found
  split at found
  · next long =>
    cases found
    exact holdsRun_of_suffix sides long
  split at found
  · cases found
  split at found
  · next long =>
    cases found
    exact holdsRun_of_suffix ((modifierDigits_suffix _).trans modifier) long
  split at found
  · cases found
  split at found
  · next long =>
    cases found
    exact holdsRun_of_suffix ((repetitionDigits_suffix _).trans repetitions) long
  · cases found

/-! ## What comes of a text -/

/-- Reading a text stops at a number exactly when its normalized form has one that is too long. -/
theorem parse_eq_number_iff {text : String} {error : NumberError} :
    parse text = .error (.number error) ↔
      ∃ digits, overlong? (normalizeChars text.toList) = some digits ∧
        error = .tooManyDigits digits := by
  rw [← readChars_eq_number_iff, parse, mapError_eq_error_iff]
  constructor
  · rintro ⟨stop, failed, reported⟩
    cases stop with
    | refused cause rest => cases reported
    | number error =>
      cases reported
      exact failed
  · exact fun failed => ⟨.number error, failed, rfl⟩

/-- A message begins with the code of the kind. -/
theorem exists_message_eq (error : ParseError) :
    ∃ wording, error.message = "[" ++ error.cause.kind.code ++ "] " ++ wording := by
  refine ⟨error.cause.detail ++ " (in " ++ quoted error.text ++ " at position " ++
    toString error.position ++ ")", ?_⟩
  simp only [ParseError.message, String.append_assoc]

/-- The service refuses a malformed text with the report. -/
theorem roll_of_malformed {σ : Type} [RandomSource σ] {text : String} {error : ParseError}
    (refused : parse text = .error (.malformed error)) (source : σ) :
    (Service.roll text source).outcome = .error (.refused error.message) := by
  have reported : (Report.roll text source).1 = .error (.parse error) := by
    rw [Report.roll, refused]
    rfl
  rw [Service.roll, reported]
  rfl

theorem average_of_malformed {text : String} {error : ParseError}
    (refused : parse text = .error (.malformed error)) :
    (Service.average text).outcome = .error (.refused error.message) := by
  have reported : AverageReport.ofText text = .error (.parse error) := by
    rw [AverageReport.ofText, refused]
    rfl
  rw [Service.average, reported]
  rfl

/-- The codes of the kinds. -/
def kindCodes : List String :=
  ["MISSING_DIE_SEPARATOR", "INVALID_COUNT", "INVALID_SIDES", "INVALID_MODIFIER", "INVALID_REPEAT",
    "TRAILING_INPUT"]

theorem code_mem_kindCodes (kind : PartKind) : kind.code ∈ kindCodes := by
  cases kind <;> decide

/-- Malformed texts are reported. Every text is read as a sensible expression or is reported with
one of the six kinds, but for the texts with a number that is too long, at which reading stops; such
a text has that many digits one behind the other. What is reported is refused by the service,
whether a roll or an average is asked for, with a message that begins with the kind in brackets. -/
theorem malformed_texts_are_reported (text : String) :
    (overlong? (normalizeChars text.toList) = none →
      (∃ expression, parse text = .ok expression ∧ expression.Sensible) ∨
        ∃ error, parse text = .error (.malformed error)) ∧
    (∀ digits, overlong? (normalizeChars text.toList) = some digits →
      parse text = .error (.number (.tooManyDigits digits)) ∧
        HoldsRun (normalizeChars text.toList) digits) ∧
    ∀ error, parse text = .error (.malformed error) →
      error.cause.kind.code ∈ kindCodes ∧
      (∃ wording, error.message = "[" ++ error.cause.kind.code ++ "] " ++ wording) ∧
      (∀ (σ : Type) [RandomSource σ] (source : σ),
        (Service.roll text source).outcome = .error (.refused error.message)) ∧
      (Service.average text).outcome = .error (.refused error.message) := by
  refine ⟨fun short => ?_, fun digits long => ?_, fun error refused => ?_⟩
  · cases read : parse text with
    | ok expression => exact .inl ⟨expression, rfl, (legible_of_parse read).1⟩
    | error error =>
      cases error with
      | malformed error => exact .inr ⟨error, rfl⟩
      | number error =>
        obtain ⟨digits, long, -⟩ := parse_eq_number_iff.1 read
        cases short.symm.trans long
  · exact ⟨parse_eq_number_iff.2 ⟨digits, long, rfl⟩, holdsRun_of_overlong? long⟩
  · exact ⟨code_mem_kindCodes _, exists_message_eq error,
      fun σ _ source => roll_of_malformed refused source, average_of_malformed refused⟩

/-- A die with one side, and a roll of zero dice. -/
theorem malformed_texts_are_reported_of_coin :
    ((∃ expression, parse "2d1" = .ok expression ∧ expression.Sensible) ∨
      ∃ error, parse "2d1" = .error (.malformed error)) ∧
    (Service.average " 0D6").outcome = .error (.refused
      ("[INVALID_COUNT] Dice count must be a positive integer. Example: '2d6'. " ++
        "(in '0d6' at position 0)")) := by
  have refused : parse " 0D6" = .error (.malformed ⟨.badCount, "0d6", " 0D6", 0⟩) := by
    decide +kernel
  exact ⟨(malformed_texts_are_reported "2d1").1 (by decide +kernel),
    ((malformed_texts_are_reported " 0D6").2.2 _ refused).2.2.2⟩

/-- A count without a die that has one digit too many. -/
def endless : String := String.ofList (List.replicate (digitLimit + 1) '1')

theorem parse_endless :
    parse endless = .error (.number (.tooManyDigits (digitLimit + 1))) := by
  have normal : normalizeChars endless.toList = List.replicate (digitLimit + 1) '1' := by
    rw [endless, String.toList_ofList]
    refine normalizeChars_of_isNormal fun c member => ?_
    rw [List.eq_of_mem_replicate member]
    decide
  have digits : leadingDigits (List.replicate (digitLimit + 1) '1') = digitLimit + 1 := by
    have one : isDigit '1' = true := by decide
    rw [leadingDigits, List.takeWhile_replicate, if_pos one, List.length_replicate]
  refine parse_eq_number_iff.2 ⟨digitLimit + 1, ?_, rfl⟩
  rw [normal, overlong?, digits, if_pos (Nat.lt_succ_self digitLimit)]

/-- There is no `d`, but no report says so: the text is neither read nor reported, and the service
passes the fault on. -/
theorem endless_count_is_not_reported :
    ¬ ((∃ expression, parse endless = .ok expression ∧ expression.Sensible) ∨
      ∃ error, parse endless = .error (.malformed error)) ∧
    (∀ message, (Service.roll endless (Constant.mk 1)).outcome ≠ .error (.refused message)) ∧
    ∀ message, (Service.average endless).outcome ≠ .error (.refused message) := by
  refine ⟨?_, fun message => ?_, fun message => ?_⟩
  · rw [parse_endless]
    rintro (⟨_, read, -⟩ | ⟨_, refused⟩)
    · cases read
    · cases refused
  · rw [Service.roll, Report.roll, parse_endless]
    exact nofun
  · rw [Service.average, AverageReport.ofText, parse_endless]
    exact nofun

end DiceTray.Expression
