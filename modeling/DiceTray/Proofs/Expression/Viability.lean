import DiceTray.Proofs.Expression.Trailing

/-!
# Where reports are placed

What stands before the place of a report can still be completed: some text behind it makes an
expression of it. Each reader of a part either places its report where the part begins, or where it
stopped, and what it had read by then is the beginning of such a part. There is one exception. A
bracket that ends the repetitions behind a star is reported behind the bracket, and no text makes an
expression of that; the bracket itself stands behind an expression.
-/

namespace DiceTray.Expression

open Text

/-- The text can be completed to an expression. -/
def Completable (start : String) : Prop :=
  ∃ rest expression, parse (start ++ rest) = .ok expression

/-- Every run of digits within a text has room for one more. -/
def ShortRuns (text : List Char) : Prop :=
  ∀ run : List Char, run <:+: text → (∀ c ∈ run, isDigit c = true) → run.length < digitLimit

/-- A closing bracket stands behind an expression whose repetitions are marked by a star. -/
def ClosesStar (text : String) : Prop :=
  ∃ (phrase : Phrase) (run : DigitRun) (behind : List Char),
    phrase.repetitions = some (.star, run) ∧ text.toList = phrase.chars ++ ']' :: behind

/-! ## Beginnings of phrases -/

/-- The characters begin a phrase, and normalization leaves alone what is missing. -/
def Viable (start : List Char) : Prop :=
  ∃ (more : List Char) (phrase : Phrase), (∀ c ∈ more, IsNormal c) ∧ phrase.chars = start ++ more

/-- Normal beginnings of phrases can be completed. -/
theorem Viable.completable {start : List Char} (viable : Viable start)
    (normal : ∀ c ∈ start, IsNormal c) : Completable (String.ofList start) := by
  obtain ⟨more, phrase, normal', chars⟩ := viable
  refine ⟨String.ofList more, phrase.expression, parse_eq_ok_iff.2 ⟨phrase, ?_, rfl⟩⟩
  rw [Phrase.text, chars, normalize, String.toList_append, String.toList_ofList,
    String.toList_ofList, normalizeChars_of_isNormal (List.forall_mem_append.2 ⟨normal, normal'⟩)]

/-- A digit that stands alone. -/
def DigitRun.single (c : Char) (digit : isDigit c = true) : DigitRun where
  digits := [c]
  nonempty := List.cons_ne_nil c []
  areDigits := List.forall_mem_singleton.2 digit
  withinLimit := (by decide : 1 ≤ digitLimit)

/-- The digit one. -/
def DigitRun.one : DigitRun := .single '1' (by decide)

/-- The digit two. -/
def DigitRun.two : DigitRun := .single '2' (by decide)

theorem DigitRun.isNormal_one : ∀ c ∈ one.digits, IsNormal c :=
  List.forall_mem_singleton.2 (by decide)

theorem DigitRun.isNormal_two : ∀ c ∈ two.digits, IsNormal c :=
  List.forall_mem_singleton.2 (by decide)

theorem isNormal_closing (form : RepeatForm) : ∀ c ∈ form.closing, IsNormal c := by
  cases form with
  | star => nofun
  | brackets => exact List.forall_mem_singleton.2 (by decide)

/-- A whole phrase begins itself. -/
theorem Phrase.viable (phrase : Phrase) : Viable phrase.chars :=
  ⟨[], phrase, nofun, (List.append_nil _).symm⟩

/-- A run with one more digit, which is a one. -/
def DigitRun.extended (digits : List Char) (areDigits : ∀ c ∈ digits, isDigit c = true)
    (short : digits.length < digitLimit) : DigitRun where
  digits := digits ++ ['1']
  nonempty := by simp
  areDigits := List.forall_mem_append.2 ⟨areDigits, DigitRun.one.areDigits⟩
  withinLimit := by
    rw [List.length_append]
    exact short

theorem DigitRun.one_le_extended {digits : List Char} (areDigits : ∀ c ∈ digits, isDigit c = true)
    (short : digits.length < digitLimit) : 1 ≤ (extended digits areDigits short).value := by
  have last : (extended digits areDigits short).value = 10 * numeral digits + 1 := by
    rw [DigitRun.value, numeral, extended, List.foldl_append]
    rfl
  omega

/-- Digits that have room for one more begin a count. -/
theorem viable_of_areDigits {digits : List Char} (areDigits : ∀ c ∈ digits, isDigit c = true)
    (short : digits.length < digitLimit) : Viable digits := by
  have positive := DigitRun.one_le_extended areDigits short
  refine ⟨'1' :: 'd' :: DigitRun.two.digits, ⟨some (.extended digits areDigits short), .two, false,
    none, none, ?_, by decide, by simp⟩, ?_, ?_⟩
  · rintro run ⟨⟩
    exact positive
  · refine List.forall_mem_cons.2 ⟨by decide, ?_⟩
    exact List.forall_mem_cons.2 ⟨by decide, DigitRun.isNormal_two⟩
  · simp [Phrase.chars, Phrase.tail, countChars, DigitRun.extended, rerollChars, modifierChars,
      repetitionChars]

/-! What was read of a part begins a phrase together with what stands before the part. -/

theorem viable_count {count : Option DigitRun} (positive : ∀ run ∈ count, 1 ≤ run.value) :
    Viable (countChars count ++ ['d']) := by
  refine ⟨DigitRun.two.digits, ⟨count, .two, false, none, none, positive, by decide, by simp⟩,
    DigitRun.isNormal_two, ?_⟩
  simp [Phrase.chars, Phrase.tail, rerollChars, modifierChars, repetitionChars]

theorem viable_sign {count : Option DigitRun} (positive : ∀ run ∈ count, 1 ≤ run.value)
    {sides : DigitRun} (enough : 2 ≤ sides.value) (reroll : Bool) (sign : Sign) :
    Viable (countChars count ++ 'd' :: (sides.digits ++ (rerollChars reroll ++ [sign.char]))) := by
  refine ⟨DigitRun.one.digits, ⟨count, sides, reroll, some (sign, .one), none, positive, enough,
    by simp⟩, DigitRun.isNormal_one, ?_⟩
  simp [Phrase.chars, Phrase.tail, modifierChars, repetitionChars]

theorem Phrase.viable_opening (phrase : Phrase) {form : RepeatForm}
    (repeated : phrase.repetitions = some (form, .one)) :
    Viable (phrase.once.chars ++ [form.opening]) := by
  refine ⟨DigitRun.one.digits ++ form.closing, phrase, ?_, ?_⟩
  · exact List.forall_mem_append.2 ⟨DigitRun.isNormal_one, isNormal_closing form⟩
  · rw [phrase.chars_eq_append, repeated, List.append_assoc]
    rfl

theorem Phrase.viable_unclosed (phrase : Phrase) {run : DigitRun}
    (repeated : phrase.repetitions = some (.brackets, run)) :
    Viable (phrase.once.chars ++ '[' :: run.digits) := by
  refine ⟨RepeatForm.brackets.closing, phrase, isNormal_closing _, ?_⟩
  rw [phrase.chars_eq_append, repeated, List.append_assoc]
  rfl

/-! ## Where the readers of the parts place their reports -/

section Refused

variable {text rest : List Char} {cause : Cause}

/-- The reader of the count stops in front of it or behind its digits. -/
theorem exists_digits_of_readCount (refused : readCount text = .error (.refused cause rest)) :
    ∃ digits, (∀ c ∈ digits, isDigit c = true) ∧ text = digits ++ rest := by
  obtain ⟨value, digits, refused⟩ := readDigits_bind_refused refused
  obtain ⟨run, parted, rfl, -⟩ := readDigits_eq_ok digits
  match left : afterDigits text with
  | [] =>
    rw [left] at refused parted
    cases refused
    exact ⟨countChars run, countChars_areDigits run, parted⟩
  | c :: after =>
    rw [left] at refused parted
    simp only at refused
    split at refused
    · split at refused
      · cases refused
      · cases refused
        exact ⟨[], nofun, rfl⟩
      · cases refused
    · split at refused
      · cases refused
        exact ⟨[], nofun, rfl⟩
      · cases refused
        exact ⟨countChars run, countChars_areDigits run, parted⟩

/-- The reader of the sides stops in front of them. -/
theorem rest_of_readSides (refused : readSides text = .error (.refused cause rest)) :
    rest = text := by
  obtain ⟨value, digits, refused⟩ := readDigits_bind_refused refused
  obtain ⟨run, parted, rfl, -⟩ := readDigits_eq_ok digits
  cases run with
  | none =>
    cases refused
    exact parted.symm
  | some run =>
    simp only [Option.map_some] at refused
    split at refused <;> cases refused
    rfl

/-- The reader of the modifier stops behind the sign. -/
theorem exists_sign_of_readModifier (refused : readModifier text = .error (.refused cause rest)) :
    ∃ sign : Sign, text = sign.char :: rest := by
  match text with
  | [] => cases refused
  | c :: body =>
    rw [readModifier] at refused
    split at refused
    · next signed =>
      obtain ⟨value, digits, refused⟩ := readDigits_bind_refused refused
      obtain ⟨run, parted, rfl, -⟩ := readDigits_eq_ok digits
      cases run with
      | some run => cases refused
      | none =>
        cases refused
        have behind : afterDigits body = body := parted.symm
        rw [behind]
        rcases signed with rfl | rfl
        · exact ⟨.plus, rfl⟩
        · exact ⟨.minus, rfl⟩
    · cases refused

/-- Where the reader of the repetitions stops. -/
inductive StopsWithin (text : List Char) : List Char → Prop
  /-- In front of them. -/
  | front : StopsWithin text text
  /-- Behind the star or the opening bracket. -/
  | opened (form : RepeatForm) {rest : List Char} (same : text = form.opening :: rest) :
    StopsWithin text rest
  /-- Behind the number within brackets. -/
  | unclosed (run : DigitRun) {rest : List Char} (positive : 1 ≤ run.value)
    (same : text = '[' :: (run.digits ++ rest)) : StopsWithin text rest
  /-- Behind a bracket that ends the number after a star. -/
  | closed (run : DigitRun) {rest : List Char} (positive : 1 ≤ run.value)
    (same : text = '*' :: (run.digits ++ ']' :: rest)) : StopsWithin text rest

theorem stopsWithin_of_readRepetitions
    (refused : readRepetitions text = .error (.refused cause rest)) : StopsWithin text rest := by
  match text with
  | [] => cases refused
  | c :: body =>
    by_cases opened : c = '*' ∨ c = '['
    · have reading := refused
      rw [readRepetitions, if_pos opened] at reading
      obtain ⟨value, digits, reading⟩ := readDigits_bind_refused reading
      obtain ⟨run, parted, rfl, ends⟩ := readDigits_eq_ok digits
      cases run with
      | none =>
        cases reading
        have behind : body = afterDigits body := parted
        rcases opened with rfl | rfl
        · exact .opened .star (congrArg _ behind)
        · exact .opened .brackets (congrArg _ behind)
      | some run =>
        rcases Nat.eq_zero_or_pos run.value with zero | positive
        · simp only [Option.map_some, zero] at reading
          cases reading
          exact .front
        · rw [parted, countChars] at refused ⊢
          rcases opened with rfl | rfl
          · rw [readRepetitions_star positive ends] at refused
            split at refused
            · next closed =>
              cases refused
              obtain ⟨after, behind⟩ := List.head?_eq_some_iff.1 closed
              rw [behind]
              exact .closed run positive rfl
            · cases refused
          · rw [readRepetitions_brackets positive ends] at refused
            split at refused
            · cases refused
            · cases refused
              exact .unclosed run positive rfl
    · rw [readRepetitions, if_neg opened] at refused
      split at refused
      · cases refused
        exact .front
      · cases refused

end Refused

/-! ## What was read by then -/

/-- What was read of the parts before the repetitions when they were refused begins a phrase. -/
theorem viable_of_readOnce {text rest : List Char} {cause : Cause}
    (refused : readOnce text = .error (.refused cause rest)) (short : ShortRuns text) :
    ∃ start, text = start ++ rest ∧ Viable start := by
  rcases bind_eq_error_iff.1 refused with failed | ⟨⟨number, afterCount⟩, counted, onward⟩
  · obtain ⟨digits, areDigits, rfl⟩ := exists_digits_of_readCount failed
    have room := short digits (List.infix_append' [] digits rest) areDigits
    exact ⟨digits, rfl, viable_of_areDigits areDigits room⟩
  obtain ⟨count, positive, parted, -⟩ := readCount_eq_ok_iff.1 counted
  rcases bind_eq_error_iff.1 onward with failed | ⟨⟨number', afterSides⟩, sided, onward⟩
  · obtain rfl := rest_of_readSides failed
    exact ⟨countChars count ++ ['d'], by simp [parted], viable_count positive⟩
  obtain ⟨sides, enough, parted', -, -⟩ := readSides_eq_ok_iff.1 sided
  rcases rolled : readReroll afterSides with ⟨reroll, afterReroll⟩
  obtain ⟨parted'', -⟩ := readReroll_eq_iff.1 rolled
  simp only [rolled] at onward
  rcases bind_eq_error_iff.1 onward with failed | ⟨⟨modifier, afterModifier⟩, -, onward⟩
  · obtain ⟨sign, rfl⟩ := exists_sign_of_readModifier failed
    exact ⟨_, by simp [parted, parted', parted''], viable_sign positive enough reroll sign⟩
  · cases onward

/-- What was read when a text was refused begins a phrase, unless it ends with a bracket that closes
a star. -/
theorem viable_or_closesStar {text rest : List Char} {cause : Cause}
    (refused : readChars text = .error (.refused cause rest)) (short : ShortRuns text) :
    (∃ start, text = start ++ rest ∧ Viable start) ∨
      ∃ (phrase : Phrase) (run : DigitRun), phrase.repetitions = some (.star, run) ∧
        text = phrase.chars ++ ']' :: rest := by
  rw [readChars_eq_bind] at refused
  rcases bind_eq_error_iff.1 refused with failed | ⟨⟨once, behind⟩, started, onward⟩
  · exact .inl (viable_of_readOnce failed short)
  rcases bind_eq_error_iff.1 onward with failed | ⟨⟨repetitions, left⟩, repeated, onward⟩
  · cases stopsWithin_of_readRepetitions failed with
    | front =>
      obtain ⟨phrase, -, parted, -⟩ :=
        exists_phrase_of_readOnce started none (by simp)
      exact .inl ⟨phrase.once.chars, parted, phrase.once.viable⟩
    | opened form same =>
      have single : 1 ≤ DigitRun.one.value := by decide
      obtain ⟨phrase, repeated, parted, -⟩ :=
        exists_phrase_of_readOnce started (some (form, .one)) (by simpa using single)
      exact .inl ⟨_, by simp [parted, same], phrase.viable_opening repeated⟩
    | unclosed run positive same =>
      obtain ⟨phrase, repeated, parted, -⟩ := exists_phrase_of_readOnce started
        (some (.brackets, run)) (by simpa using positive)
      exact .inl ⟨_, by simp [parted, same], phrase.viable_unclosed repeated⟩
    | closed run positive same =>
      obtain ⟨phrase, repeated, parted, -⟩ := exists_phrase_of_readOnce started
        (some (.star, run)) (by simpa using positive)
      refine .inr ⟨phrase, run, repeated, ?_⟩
      rw [phrase.chars_eq_append, repeated, parted, same]
      simp [repetitionChars, RepeatForm.opening, RepeatForm.closing]
  · simp only at onward
    split at onward
    · cases onward
    · cases onward
      obtain ⟨phrase, parted, -⟩ := exists_phrase_of_readRepetitions started repeated
      exact .inl ⟨phrase.chars, parted, phrase.viable⟩

/-! ## The bracket that closes a star -/

section Closed

variable {phrase : Phrase} {run : DigitRun} (repeated : phrase.repetitions = some (.star, run))
  (behind : List Char)

include repeated

/-- It is passed over before it is reported. -/
theorem readChars_of_closesStar :
    readChars (phrase.chars ++ ']' :: behind) =
      .error (.refused .unbalancedBracket behind) := by
  have parted : repetitionChars phrase.repetitions ++ ']' :: behind =
      '*' :: (run.digits ++ ']' :: behind) := by
    simp [repeated, repetitionChars, RepeatForm.opening, RepeatForm.closing]
  have ends : phrase.EndsBefore ('*' :: (run.digits ++ ']' :: behind)) := by
    rintro c ⟨⟩
    exact phrase.endsAt_opening .star
  have positive : 1 ≤ run.value := phrase.repetitions_pos _ repeated
  rw [phrase.chars_eq_append, List.append_assoc, parted, readChars_eq_bind, readOnce_append ends,
    ok_bind]
  simp only [readToEnd]
  rw [readRepetitions_star positive (endsRun_cons.2 (by decide)), if_pos List.head?_cons]
  rfl

/-- Nothing makes an expression of the text up to the bracket. -/
theorem not_completable_of_closesStar (normal : ∀ c ∈ phrase.chars, IsNormal c) :
    ¬ Completable (String.ofList (phrase.chars ++ [']'])) := by
  rintro ⟨rest, expression, read⟩
  have normal' : ∀ c ∈ phrase.chars ++ [']'], IsNormal c :=
    List.forall_mem_append.2 ⟨normal, isNormal_closing .brackets⟩
  obtain ⟨more, normalized⟩ := exists_normalizeChars_append normal' rest.toList
  rw [parse_eq_ok_iff_readChars, String.toList_append, String.toList_ofList, normalized,
    List.append_assoc, List.singleton_append, readChars_of_closesStar repeated more] at read
  cases read

end Closed

/-- What stands before the place of a report can be completed to an expression, but for one case:
behind a bracket that closes a star it cannot, and what can is what stands before the bracket. -/
theorem reports_follow_completable_text {text : String} {error : ParseError}
    (refused : parse text = .error (.malformed error)) (short : ShortRuns error.text.toList) :
    (Completable (front error.position error.text) ↔ ¬ ClosesStar error.text) ∧
      (ClosesStar error.text → Completable (front (error.position - 1) error.text)) := by
  obtain ⟨rest, failed, given, placed⟩ := exists_refused_of_parse refused
  have chars : error.text.toList = normalizeChars text.toList := by
    rw [given, normalize, String.toList_ofList]
  rw [← chars] at failed placed
  have normal : ∀ c ∈ error.text.toList, IsNormal c := by
    rw [chars]
    exact isNormal_of_mem_normalizeChars _
  by_cases closes : ClosesStar error.text
  · obtain ⟨phrase, run, behind, repeated, parted⟩ := id closes
    rw [parted] at failed placed normal
    rw [readChars_of_closesStar repeated behind] at failed
    obtain ⟨-, rfl⟩ := Stop.refused.inj (Except.error.inj failed)
    obtain ⟨normal, -⟩ := List.forall_mem_append.1 normal
    have place : error.position = phrase.chars.length + 1 := by
      rw [placed, List.length_append, List.length_cons]
      omega
    have upTo : front error.position error.text = String.ofList (phrase.chars ++ [']']) := by
      rw [front, parted, place, List.take_length_add_append]
      rfl
    have before : front (error.position - 1) error.text = String.ofList phrase.chars := by
      rw [front, parted, place, Nat.add_sub_cancel, List.take_left]
    rw [upTo, before]
    exact ⟨iff_of_false (not_completable_of_closesStar repeated normal) (not_not.2 closes),
      fun _ => phrase.viable.completable normal⟩
  · refine ⟨iff_of_true ?_ closes, fun closes' => absurd closes' closes⟩
    rcases viable_or_closesStar failed short with
      ⟨start, parted, viable⟩ | ⟨phrase, run, repeated, parted⟩
    · have before : front error.position error.text = String.ofList start := by
        rw [front, placed, parted, List.length_append, Nat.add_sub_cancel, List.take_left]
      rw [parted] at normal
      rw [before]
      exact viable.completable (List.forall_mem_append.1 normal).1
    · exact absurd ⟨phrase, run, rest, repeated, parted⟩ closes

/-- Repetitions whose bracket is not closed: a bracket completes what stands before the place. -/
theorem reports_follow_completable_text_of_open_bracket :
    parse "2D6[5 +1" = .error (.malformed ⟨.unbalancedBracket, "2d6[5+1", "2D6[5 +1", 5⟩) ∧
      (Completable (front 5 "2d6[5+1") ↔ ¬ ClosesStar "2d6[5+1") := by
  have refused : parse "2D6[5 +1" =
      .error (.malformed ⟨.unbalancedBracket, "2d6[5+1", "2D6[5 +1", 5⟩) := by
    decide +kernel
  have short : ShortRuns "2d6[5+1".toList := fun run within _ =>
    Nat.lt_of_le_of_lt within.length_le (by decide)
  exact ⟨refused, (reports_follow_completable_text refused short).1⟩

/-- Two dice with two sides, rolled twice. -/
def Phrase.twice : Phrase :=
  ⟨some .two, .two, false, none, some (.star, .two), by decide, by decide, by decide⟩

/-- The report on a bracket that closes a star is placed behind the bracket. -/
theorem bracket_behind_star_is_passed_over :
    parse "2d2*2]" = .error (.malformed ⟨.unbalancedBracket, "2d2*2]", "2d2*2]", 6⟩) ∧
      ShortRuns "2d2*2]".toList ∧ ¬ Completable (front 6 "2d2*2]") := by
  have start : front 6 "2d2*2]" = String.ofList (Phrase.twice.chars ++ [']']) := by decide +kernel
  have normal : Phrase.twice.chars = normalizeChars "2d2*2".toList := by decide +kernel
  refine ⟨by decide +kernel, fun run within _ => ?_, ?_⟩
  · exact Nat.lt_of_le_of_lt within.length_le (by decide)
  · rw [start]
    exact not_completable_of_closesStar rfl (normal ▸ isNormal_of_mem_normalizeChars _)

end DiceTray.Expression
