import DiceTray.Proofs.Expression.Grammar
import DiceTray.Proofs.Sequence
import Mathlib.Data.List.TakeWhile

/-!
# Reading and the grammar

Each part of the reader is put beside the part of the grammar that it is meant for: it succeeds with
a value and a rest exactly when the text is such a part followed by that rest, and the rest cannot
belong to the part. Composed, the parts say that the reader accepts the texts of phrases and no
others.
-/

namespace DiceTray.Expression

open Text

/-- Nothing is read where no digit stands. -/
theorem readDigits_of_endsRun {cs : List Char} (ends : EndsRun cs) :
    readDigits cs = .ok (none, cs) := by
  simp [readDigits, ends.takeWhile_eq_nil]

/-- A run is read up to its end, and what follows is left. -/
theorem readDigits_append (run : DigitRun) {rest : List Char} (ends : EndsRun rest) :
    readDigits (run.digits ++ rest) = .ok (some run.value, rest) := by
  have present : run.digits.isEmpty = false := by simpa using run.nonempty
  have short : ¬ digitLimit < run.digits.length := Nat.not_lt.2 run.withinLimit
  simp [readDigits, takeWhile_digits_append run.areDigits ends,
    dropWhile_digits_append run.areDigits ends, present, short, DigitRun.value]

/-- The reader of digits finds the run at the front, if there is one. -/
theorem readDigits_eq_ok {cs rest : List Char} {value : Option Nat}
    (found : readDigits cs = .ok (value, rest)) :
    ∃ run : Option DigitRun, cs = countChars run ++ rest ∧ value = run.map DigitRun.value ∧
      EndsRun rest := by
  simp only [readDigits] at found
  split at found
  · next empty =>
    cases found
    refine ⟨none, rfl, rfl, ?_⟩
    have parted := List.takeWhile_append_dropWhile (p := isDigit) (l := cs)
    rw [List.isEmpty_iff.1 empty, List.nil_append] at parted
    exact parted ▸ endsRun_dropWhile cs
  · next present =>
    split at found
    · cases found
    · next short =>
      cases found
      exact ⟨some ⟨cs.takeWhile isDigit, by simpa using present,
          fun _ member => List.mem_takeWhile_imp member, Nat.not_lt.1 short⟩,
        List.takeWhile_append_dropWhile.symm, rfl, endsRun_dropWhile cs⟩

/-- The count is a run of positive value or is left out. -/
theorem readCount_eq_ok_iff {text rest : List Char} {value : Nat} :
    readCount text = .ok (value, rest) ↔
      ∃ count : Option DigitRun, (∀ run ∈ count, 1 ≤ run.value) ∧
        text = countChars count ++ 'd' :: rest ∧
        value = (count.map DigitRun.value).getD 1 := by
  have ends : ∀ rest, EndsRun ('d' :: rest) := fun rest => endsRun_cons.2 (by decide)
  constructor
  · intro found
    obtain ⟨⟨number, left⟩, digits, found⟩ := bind_eq_ok_iff.1 found
    obtain ⟨count, rfl, rfl, -⟩ := readDigits_eq_ok digits
    match left with
    | [] => cases found
    | c :: after =>
      simp only at found
      split at found
      · next separator =>
        subst separator
        match count with
        | none =>
          cases found
          exact ⟨none, by simp, rfl, rfl⟩
        | some run =>
          simp only [Option.map_some] at found
          split at found
          · next absent => cases absent
          · cases found
          · next positive same =>
            cases same
            cases found
            exact ⟨some run, by simpa [Nat.one_le_iff_ne_zero] using positive, rfl, rfl⟩
      · split at found <;> cases found
  · rintro ⟨count, positive, rfl, rfl⟩
    match count with
    | none =>
      simp only [countChars, List.nil_append]
      rw [readCount, readDigits_of_endsRun (ends rest)]
      rfl
    | some run =>
      simp only [countChars]
      rw [readCount, readDigits_append run (ends rest)]
      obtain ⟨value, known⟩ := Nat.exists_eq_succ_of_ne_zero
        (Nat.one_le_iff_ne_zero.1 (positive run rfl))
      simp [bind, Except.bind, known]

/-- The sides are a run of value two at least. -/
theorem readSides_eq_ok_iff {text rest : List Char} {value : Nat} :
    readSides text = .ok (value, rest) ↔
      ∃ run : DigitRun, 2 ≤ run.value ∧ text = run.digits ++ rest ∧ value = run.value ∧
        EndsRun rest := by
  constructor
  · intro found
    obtain ⟨⟨number, left⟩, digits, found⟩ := bind_eq_ok_iff.1 found
    obtain ⟨sides, rfl, rfl, ends⟩ := readDigits_eq_ok digits
    match sides with
    | none => cases found
    | some run =>
      simp only [Option.map_some] at found
      split at found
      · cases found
      · next enough =>
        cases found
        exact ⟨run, Nat.not_lt.1 enough, rfl, rfl, ends⟩
  · rintro ⟨run, enough, rfl, rfl, ends⟩
    rw [readSides, readDigits_append run ends]
    simp [bind, Except.bind, Nat.not_lt.2 enough]

/-- The mark for rerolls is read where it stands. -/
theorem readReroll_eq_iff {text rest : List Char} {reroll : Bool} :
    readReroll text = (reroll, rest) ↔
      text = rerollChars reroll ++ rest ∧ (reroll = false → ∀ after, rest ≠ 'r' :: after) := by
  constructor
  · intro found
    cases text with
    | nil =>
      cases found
      exact ⟨rfl, by simp⟩
    | cons c after =>
      rw [readReroll] at found
      split at found
      · next mark =>
        cases found
        exact ⟨by simp [rerollChars, mark], by simp⟩
      · next other =>
        cases found
        exact ⟨rfl, fun _ after' same => other (List.cons.inj same).1⟩
  · rintro ⟨rfl, absent⟩
    cases reroll with
    | true => simp [rerollChars, readReroll]
    | false =>
      cases rest with
      | nil => rfl
      | cons c after =>
        have other : c ≠ 'r' := fun mark => absent rfl after (mark ▸ rfl)
        simp [rerollChars, readReroll, other]

/-- A modifier is a sign with a run, or is left out where no sign stands. -/
theorem readModifier_eq_ok_iff {text rest : List Char} {value : Int} :
    readModifier text = .ok (value, rest) ↔
      ∃ modifier : Option (Sign × DigitRun), text = modifierChars modifier ++ rest ∧
        value = (modifier.map fun part => part.1.apply part.2.value).getD 0 ∧
        (modifier = none → ∀ (sign : Sign) (after : List Char), rest ≠ sign.char :: after) ∧
        (modifier ≠ none → EndsRun rest) := by
  constructor
  · intro found
    match text with
    | [] =>
      cases found
      exact ⟨none, rfl, rfl, by simp, by simp⟩
    | c :: body =>
      rw [readModifier] at found
      split at found
      · next signed =>
        obtain ⟨⟨number, left⟩, digits, found⟩ := bind_eq_ok_iff.1 found
        obtain ⟨run, rfl, rfl, ends⟩ := readDigits_eq_ok digits
        match run with
        | none => cases found
        | some run =>
          cases found
          rcases signed with rfl | rfl
          · exact ⟨some (.plus, run), rfl, by simp [Sign.apply], by simp, fun _ => ends⟩
          · exact ⟨some (.minus, run), rfl, by simp [Sign.apply], by simp, fun _ => ends⟩
      · next unsigned =>
        cases found
        refine ⟨none, rfl, rfl, fun _ sign after same => unsigned ?_, by simp⟩
        cases sign
        · exact .inl (List.cons.inj same).1
        · exact .inr (List.cons.inj same).1
  · rintro ⟨modifier, rfl, rfl, absent, ends⟩
    match modifier with
    | none =>
      match rest with
      | [] => rfl
      | c :: body =>
        have unsigned : ¬ (c = '+' ∨ c = '-') := by
          rintro (rfl | rfl)
          · exact absent rfl .plus body rfl
          · exact absent rfl .minus body rfl
        simp [modifierChars, readModifier, unsigned]
    | some (sign, run) =>
      have read := readDigits_append run (ends (by simp))
      cases sign <;>
        simp [modifierChars, readModifier, Sign.char, Sign.apply, read, bind, Except.bind]

/-- What comes of a star and a run: no bracket may close it. -/
theorem readRepetitions_star {run : DigitRun} {rest : List Char} (positive : 1 ≤ run.value)
    (ends : EndsRun rest) :
    readRepetitions ('*' :: (run.digits ++ rest)) =
      if rest.head? = some ']' then .error (.refused .unbalancedBracket rest.tail)
      else .ok (run.value, rest) := by
  obtain ⟨value, known⟩ := Nat.exists_eq_succ_of_ne_zero (Nat.one_le_iff_ne_zero.1 positive)
  rw [readRepetitions, if_pos (.inl rfl), readDigits_append run ends, known]
  match rest with
  | [] => rfl
  | c :: after => by_cases closing : c = ']' <;> simp [bind, Except.bind, closing]

/-- What comes of an opening bracket and a run: a bracket has to close it. -/
theorem readRepetitions_brackets {run : DigitRun} {rest : List Char} (positive : 1 ≤ run.value)
    (ends : EndsRun rest) :
    readRepetitions ('[' :: (run.digits ++ rest)) =
      if rest.head? = some ']' then .ok (run.value, rest.tail)
      else .error (.refused .unbalancedBracket rest) := by
  obtain ⟨value, known⟩ := Nat.exists_eq_succ_of_ne_zero (Nat.one_le_iff_ne_zero.1 positive)
  rw [readRepetitions, if_pos (.inr rfl), readDigits_append run ends, known]
  match rest with
  | [] => rfl
  | c :: after => by_cases closing : c = ']' <;> simp [bind, Except.bind, closing]

/-- A star or an opening bracket is followed by a run of positive value. -/
theorem exists_run_of_readRepetitions {c : Char} {body rest : List Char} {value : Nat}
    (opened : c = '*' ∨ c = '[') (found : readRepetitions (c :: body) = .ok (value, rest)) :
    ∃ (run : DigitRun) (left : List Char), 1 ≤ run.value ∧ body = run.digits ++ left ∧
      EndsRun left := by
  rw [readRepetitions, if_pos opened] at found
  obtain ⟨⟨number, left⟩, digits, found⟩ := bind_eq_ok_iff.1 found
  obtain ⟨run, rfl, rfl, ends⟩ := readDigits_eq_ok digits
  match run with
  | none => cases found
  | some run =>
    refine ⟨run, left, Nat.one_le_iff_ne_zero.2 fun zero => ?_, rfl, ends⟩
    simp only [Option.map_some, zero] at found
    cases found

/-- What may stand behind repetitions: nothing that their reader would go on with or refuse. -/
def StopsRepetitions : Option (RepeatForm × DigitRun) → List Char → Prop
  | none, rest => ∀ c ∈ rest.head?, c ≠ '*' ∧ c ≠ '[' ∧ c ≠ ']'
  | some (.star, _), rest => EndsRun rest ∧ rest.head? ≠ some ']'
  | some (.brackets, _), _ => True

/-- Repetitions that were read are there, in one of two spellings or left out. -/
theorem exists_repetitions_of_readRepetitions {text rest : List Char} {value : Nat}
    (found : readRepetitions text = .ok (value, rest)) :
    ∃ repetitions : Option (RepeatForm × DigitRun), (∀ part ∈ repetitions, 1 ≤ part.2.value) ∧
      text = repetitionChars repetitions ++ rest ∧
      value = (repetitions.map fun part => part.2.value).getD 1 ∧
      StopsRepetitions repetitions rest := by
  cases text with
  | nil =>
    cases found
    exact ⟨none, by simp, rfl, rfl, by simp [StopsRepetitions]⟩
  | cons c body =>
    by_cases opened : c = '*' ∨ c = '['
    · obtain ⟨run, left, positive, rfl, ends⟩ := exists_run_of_readRepetitions opened found
      rcases opened with rfl | rfl
      · rw [readRepetitions_star positive ends] at found
        split at found
        · cases found
        · next unclosed =>
          cases found
          exact ⟨some (.star, run), by simpa using positive,
            by simp [repetitionChars, RepeatForm.opening, RepeatForm.closing], rfl, ends, unclosed⟩
      · rw [readRepetitions_brackets positive ends] at found
        split at found
        · next closed =>
          cases found
          obtain ⟨after, rfl⟩ := List.head?_eq_some_iff.1 closed
          exact ⟨some (.brackets, run), by simpa using positive,
            by simp [repetitionChars, RepeatForm.opening, RepeatForm.closing], rfl, trivial⟩
        · cases found
    · rw [readRepetitions, if_neg opened] at found
      split at found
      · cases found
      · next unclosed =>
        cases found
        refine ⟨none, by simp, rfl, rfl, fun b first => ?_⟩
        cases first
        exact ⟨fun star => opened (.inl star), fun bracket => opened (.inr bracket), unclosed⟩

/-- Repetitions of positive value are read where they stop. -/
theorem readRepetitions_append {repetitions : Option (RepeatForm × DigitRun)} {rest : List Char}
    (positive : ∀ part ∈ repetitions, 1 ≤ part.2.value)
    (stops : StopsRepetitions repetitions rest) :
    readRepetitions (repetitionChars repetitions ++ rest) =
      .ok ((repetitions.map fun part => part.2.value).getD 1, rest) := by
  rcases repetitions with - | ⟨form, run⟩
  · cases rest with
    | nil => rfl
    | cons c body =>
      obtain ⟨star, bracket, closing⟩ := stops c rfl
      simp [repetitionChars, readRepetitions, star, bracket, closing]
  · cases form with
    | star =>
      simp only [repetitionChars, RepeatForm.opening, RepeatForm.closing, List.append_nil,
        List.cons_append]
      rw [readRepetitions_star (positive _ rfl) stops.1, if_neg stops.2]
      rfl
    | brackets =>
      simp only [repetitionChars, RepeatForm.opening, RepeatForm.closing, List.cons_append,
        List.append_assoc, List.nil_append]
      rw [readRepetitions_brackets (positive _ rfl) (endsRun_cons.2 (by decide)),
        if_pos List.head?_cons]
      rfl

/-! ## What may stand behind the parts -/

/-- The parts of a phrase in front of its repetitions end before a character: it is none that their
readers would go on with. -/
structure Phrase.EndsAt (phrase : Phrase) (c : Char) : Prop where
  /-- Without a modifier, a sign would begin one. -/
  unsigned : phrase.modifier = none → ∀ sign : Sign, c ≠ sign.char
  /-- Without a modifier and a mark for rerolls, it would be that mark. -/
  unmarked : phrase.modifier = none → phrase.reroll = false → c ≠ 'r'
  /-- A digit would belong to the number that is the last part. -/
  other : (phrase.modifier = none → phrase.reroll = false) → isDigit c = false

/-- The parts of a phrase in front of its repetitions end before a text. -/
def Phrase.EndsBefore (phrase : Phrase) (rest : List Char) : Prop :=
  ∀ c ∈ rest.head?, phrase.EndsAt c

/-- The reader of a phrase stops before a text. -/
structure Phrase.StopsBefore (phrase : Phrase) (rest : List Char) : Prop where
  ends : phrase.EndsBefore (repetitionChars phrase.repetitions ++ rest)
  stops : StopsRepetitions phrase.repetitions rest

/-- Before a star and before an opening bracket every part ends. -/
theorem Phrase.endsAt_opening (phrase : Phrase) (form : RepeatForm) :
    phrase.EndsAt form.opening := by
  constructor
  · intro _ sign
    cases form <;> cases sign <;> decide
  · intro _ _
    cases form <;> decide
  · intro _
    cases form <;> decide

/-- What a phrase stops before is decided by the first character. -/
theorem Phrase.StopsBefore.of_head {phrase : Phrase} {rest rest' : List Char}
    (stops : phrase.StopsBefore rest) (heads : ∀ c ∈ rest'.head?, c ∈ rest.head?) :
    phrase.StopsBefore rest' := by
  obtain ⟨ends, stops⟩ := stops
  match repetitions : phrase.repetitions with
  | none =>
    rw [repetitions] at ends stops
    exact ⟨repetitions ▸ fun c first => ends c (heads c first),
      repetitions ▸ fun c first => stops c (heads c first)⟩
  | some (form, run) =>
    rw [repetitions] at stops
    refine ⟨repetitions ▸ ends, ?_⟩
    cases form with
    | star =>
      obtain ⟨ends, unclosed⟩ := stops
      exact repetitions ▸
        ⟨fun c first => ends c (heads c first), fun closing => unclosed (heads _ closing)⟩
    | brackets => exact repetitions ▸ trivial

/-- Every phrase stops at the end of a text. -/
theorem Phrase.stopsBefore_nil (phrase : Phrase) : phrase.StopsBefore [] := by
  constructor
  · rw [List.append_nil]
    match phrase.repetitions with
    | none => exact nofun
    | some (form, run) =>
      rintro c ⟨⟩
      exact phrase.endsAt_opening form
  · match phrase.repetitions with
    | none => exact nofun
    | some (.star, _) => exact ⟨endsRun_nil, nofun⟩
    | some (.brackets, _) => exact trivial

/-! ## Texts of phrases -/

/-- Reads the parts in front of the repetitions, as an expression that is rolled once. -/
def readOnce (text : List Char) : Except Stop (Expression × List Char) := do
  let (count, rest) ← readCount text
  let (sides, rest) ← readSides rest
  let (reroll, rest) := readReroll rest
  let (modifier, rest) ← readModifier rest
  .ok ({ count, sides, reroll, modifier }, rest)

/-- Reads the repetitions of an expression, behind which a text has to end. -/
def readToEnd (once : Expression) (text : List Char) : Except Stop Expression := do
  let (repetitions, rest) ← readRepetitions text
  if rest.isEmpty then .ok { once with repetitions }
  else .error (.refused (.trailing (String.ofList rest)) rest)

theorem readChars_eq_bind (text : List Char) :
    readChars text = readOnce text >>= fun (once, rest) => readToEnd once rest := by
  rw [readChars, readOnce]
  rcases readCount text with _ | ⟨count, afterCount⟩
  · rfl
  simp only [ok_bind]
  rcases readSides afterCount with _ | ⟨sides, afterSides⟩
  · rfl
  simp only [ok_bind]
  rcases readModifier (readReroll afterSides).2 with _ | ⟨modifier, afterModifier⟩
  · rfl
  · rfl

/-- A phrase without its repetitions. -/
def Phrase.once (phrase : Phrase) : Phrase :=
  { phrase with repetitions := none, repetitions_pos := nofun }

theorem Phrase.chars_eq_append (phrase : Phrase) :
    phrase.chars = phrase.once.chars ++ repetitionChars phrase.repetitions := by
  simp [Phrase.chars, Phrase.tail, Phrase.once, repetitionChars]

/-- What is read in front of the repetitions are the parts of a phrase, which end there. Any
repetitions may be put behind them. -/
theorem exists_phrase_of_readOnce {text rest : List Char} {once : Expression}
    (found : readOnce text = .ok (once, rest)) (repetitions : Option (RepeatForm × DigitRun))
    (positive : ∀ part ∈ repetitions, 1 ≤ part.2.value) :
    ∃ phrase : Phrase, phrase.repetitions = repetitions ∧ text = phrase.once.chars ++ rest ∧
      once = phrase.once.expression ∧ phrase.EndsBefore rest := by
  obtain ⟨⟨count, afterCount⟩, counted, found⟩ := bind_eq_ok_iff.1 found
  obtain ⟨⟨sides, afterSides⟩, sided, found⟩ := bind_eq_ok_iff.1 found
  rcases rolled : readReroll afterSides with ⟨reroll, afterReroll⟩
  simp only [rolled] at found
  obtain ⟨⟨modifier, afterModifier⟩, modified, found⟩ := bind_eq_ok_iff.1 found
  cases found
  obtain ⟨countPart, countPositive, rfl, rfl⟩ := readCount_eq_ok_iff.1 counted
  obtain ⟨sidesPart, twoSides, rfl, rfl, sidesEnd⟩ := readSides_eq_ok_iff.1 sided
  obtain ⟨rfl, unmarked⟩ := readReroll_eq_iff.1 rolled
  obtain ⟨modifierPart, rfl, rfl, unsigned, modifierEnds⟩ := readModifier_eq_ok_iff.1 modified
  refine ⟨⟨countPart, sidesPart, reroll, modifierPart, repetitions, countPositive, twoSides,
    positive⟩, rfl, ?_, rfl, ?_⟩
  · simp [Phrase.chars, Phrase.tail, Phrase.once, repetitionChars]
  · intro c first
    obtain ⟨after, rfl⟩ := List.head?_eq_some_iff.1 first
    refine ⟨fun absent sign same => unsigned absent sign after (same ▸ rfl), ?_, ?_⟩
    · rintro rfl unrolled rfl
      exact unmarked unrolled after rfl
    · intro last
      cases modifierPart with
      | none =>
        obtain rfl := last rfl
        exact endsRun_cons.1 sidesEnd
      | some part => exact endsRun_cons.1 (modifierEnds (Option.some_ne_none part))

section Once

variable {phrase : Phrase} {rest : List Char}

theorem Phrase.EndsBefore.endsRun_sides (ends : phrase.EndsBefore rest) :
    EndsRun (rerollChars phrase.reroll ++ (modifierChars phrase.modifier ++ rest)) := by
  intro c first
  match marked : phrase.reroll, modified : phrase.modifier with
  | true, _ =>
    rw [marked] at first
    cases first
    decide
  | false, some (sign, _) =>
    rw [marked, modified] at first
    cases first
    cases sign <;> decide
  | false, none =>
    rw [marked, modified] at first
    exact (ends c first).other fun _ => marked

theorem Phrase.EndsBefore.readReroll_eq (ends : phrase.EndsBefore rest) :
    readReroll (rerollChars phrase.reroll ++ (modifierChars phrase.modifier ++ rest)) =
      (phrase.reroll, modifierChars phrase.modifier ++ rest) := by
  refine readReroll_eq_iff.2 ⟨rfl, fun unrolled after same => ?_⟩
  match modified : phrase.modifier with
  | none =>
    rw [modified] at same
    exact (ends 'r' (List.head?_eq_some_iff.2 ⟨after, same⟩)).unmarked modified unrolled rfl
  | some (sign, _) =>
    rw [modified] at same
    cases sign <;> cases same

theorem Phrase.EndsBefore.readModifier_eq (ends : phrase.EndsBefore rest) :
    readModifier (modifierChars phrase.modifier ++ rest) =
      .ok ((phrase.modifier.map fun part => part.1.apply part.2.value).getD 0, rest) := by
  refine readModifier_eq_ok_iff.2 ⟨phrase.modifier, rfl, rfl, ?_, fun present c first => ?_⟩
  · rintro absent sign after rfl
    exact (ends sign.char rfl).unsigned absent sign rfl
  · exact (ends c first).other fun absent => absurd absent present

/-- The parts of a phrase in front of its repetitions are read where they end. -/
theorem readOnce_append (ends : phrase.EndsBefore rest) :
    readOnce (phrase.once.chars ++ rest) = .ok (phrase.once.expression, rest) := by
  have chars : phrase.once.chars ++ rest = countChars phrase.count ++ 'd' :: (phrase.sides.digits ++
      (rerollChars phrase.reroll ++ (modifierChars phrase.modifier ++ rest))) := by
    simp [Phrase.chars, Phrase.tail, Phrase.once, repetitionChars]
  rw [chars, readOnce, readCount_eq_ok_iff.2 ⟨phrase.count, phrase.count_pos, rfl, rfl⟩, ok_bind]
  simp only
  rw [readSides_eq_ok_iff.2 ⟨phrase.sides, phrase.two_le_sides, rfl, rfl, ends.endsRun_sides⟩,
    ok_bind]
  simp only [ends.readReroll_eq]
  rw [ends.readModifier_eq]
  rfl

end Once

/-- Repetitions that were read behind the parts of a phrase complete it. -/
theorem exists_phrase_of_readRepetitions {text behind rest : List Char} {once : Expression}
    {repetitions : Nat} (found : readOnce text = .ok (once, behind))
    (repeated : readRepetitions behind = .ok (repetitions, rest)) :
    ∃ phrase : Phrase, text = phrase.chars ++ rest ∧
      phrase.expression = { once with repetitions := repetitions } ∧ phrase.StopsBefore rest := by
  obtain ⟨parts, positive, rfl, rfl, stops⟩ := exists_repetitions_of_readRepetitions repeated
  obtain ⟨phrase, rfl, rfl, rfl, ends⟩ := exists_phrase_of_readOnce found parts positive
  exact ⟨phrase, by rw [phrase.chars_eq_append, List.append_assoc], rfl, ends, stops⟩

/-- A phrase is read where its reader stops, and nothing may be left behind it. -/
theorem readChars_append {phrase : Phrase} {rest : List Char} (stops : phrase.StopsBefore rest) :
    readChars (phrase.chars ++ rest) =
      if rest.isEmpty then .ok phrase.expression
      else .error (.refused (.trailing (String.ofList rest)) rest) := by
  rw [phrase.chars_eq_append, List.append_assoc, readChars_eq_bind, readOnce_append stops.ends,
    ok_bind]
  simp only [readToEnd]
  rw [readRepetitions_append phrase.repetitions_pos stops.stops, ok_bind]
  rfl

/-- What the reader accepts is a phrase, whose expression it returns. -/
theorem exists_phrase_of_readChars {text : List Char} {expression : Expression}
    (found : readChars text = .ok expression) :
    ∃ phrase : Phrase, phrase.chars = text ∧ phrase.expression = expression := by
  rw [readChars_eq_bind] at found
  obtain ⟨⟨once, behind⟩, started, found⟩ := bind_eq_ok_iff.1 found
  obtain ⟨⟨repetitions, rest⟩, repeated, found⟩ := bind_eq_ok_iff.1 found
  obtain ⟨phrase, parted, same, -⟩ := exists_phrase_of_readRepetitions started repeated
  simp only at found
  split at found
  · next complete =>
    cases found
    exact ⟨phrase, by rw [parted, List.isEmpty_iff.1 complete, List.append_nil], same⟩
  · cases found

/-- Every phrase is accepted, and its expression is returned. -/
theorem readChars_chars (phrase : Phrase) : readChars phrase.chars = .ok phrase.expression := by
  have read := readChars_append phrase.stopsBefore_nil
  rwa [List.append_nil] at read

/-- Reading a text is reading its normalized characters. -/
theorem parse_eq_ok_iff_readChars {text : String} {expression : Expression} :
    parse text = .ok expression ↔ readChars (normalizeChars text.toList) = .ok expression :=
  mapError_eq_ok_iff

/-- A text is an expression exactly when its normalized form is the text of a phrase. -/
theorem parse_eq_ok_iff {text : String} {expression : Expression} :
    parse text = .ok expression ↔
      ∃ phrase : Phrase, phrase.text = normalize text ∧ phrase.expression = expression := by
  rw [parse_eq_ok_iff_readChars]
  constructor
  · intro found
    obtain ⟨phrase, chars, written⟩ := exists_phrase_of_readChars found
    exact ⟨phrase, congrArg String.ofList chars, written⟩
  · rintro ⟨phrase, same, rfl⟩
    have chars : phrase.chars = normalizeChars text.toList := String.ofList_injective same
    exact chars ▸ readChars_chars phrase

/-- The texts of phrases are read, each as the expression of its phrase, and nothing else is read;
no text is that of two phrases. -/
theorem parse_reads_phrases (text : String) :
    (∀ expression, parse text = .ok expression ↔
      ∃ phrase : Phrase, phrase.text = normalize text ∧ phrase.expression = expression) ∧
    Function.Injective Phrase.text :=
  ⟨fun _ => parse_eq_ok_iff, Phrase.text_injective⟩

end DiceTray.Expression
