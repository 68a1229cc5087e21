import DiceTray.Expression.Reader
import Mathlib.Logic.Function.Basic

/-!
# The grammar of roll expressions

What a text has to look like to be an expression, said without the reader. A `Phrase` holds the
parts of such a text, and its proof fields say what is asked of each part. `Phrase.text_injective`
shows that no text has two readings: the parts are divided by characters that are no digits, so
every run of digits ends where its neighbour begins.
-/

namespace DiceTray.Expression

open Text

/-- A number as it stands in a text: digits of any script, leading zeros among them, and no more of
them than are read. -/
@[ext]
structure DigitRun where
  /-- The digits, most significant first. -/
  digits : List Char
  nonempty : digits ≠ []
  areDigits : ∀ c ∈ digits, isDigit c = true
  withinLimit : digits.length ≤ digitLimit

/-- The number that a run writes. -/
def DigitRun.value (run : DigitRun) : Nat := numeral run.digits

/-- The signs of a modifier. -/
inductive Sign
  | plus
  | minus
deriving DecidableEq

/-- How a sign is written. -/
def Sign.char : Sign → Char
  | .plus => '+'
  | .minus => '-'

/-- A number with a sign. -/
def Sign.apply : Sign → Nat → Int
  | .plus, value => value
  | .minus, value => -value

/-- The two spellings of repetitions. -/
inductive RepeatForm
  | star
  | brackets
deriving DecidableEq

/-- What stands before the number of repetitions. -/
def RepeatForm.opening : RepeatForm → Char
  | .star => '*'
  | .brackets => '['

/-- What stands after the number of repetitions. -/
def RepeatForm.closing : RepeatForm → List Char
  | .star => []
  | .brackets => [']']

/-- The characters of a count, which may be left out. -/
def countChars : Option DigitRun → List Char
  | none => []
  | some run => run.digits

/-- The characters of the mark for rerolls. -/
def rerollChars (reroll : Bool) : List Char :=
  if reroll then ['r'] else []

/-- The characters of a modifier, which may be left out. -/
def modifierChars : Option (Sign × DigitRun) → List Char
  | none => []
  | some (sign, run) => sign.char :: run.digits

/-- The characters of the repetitions, which may be left out. -/
def repetitionChars : Option (RepeatForm × DigitRun) → List Char
  | none => []
  | some (form, run) => form.opening :: (run.digits ++ form.closing)

/-- The parts of a text that writes an expression, in the order of the text. -/
@[ext]
structure Phrase where
  count : Option DigitRun
  sides : DigitRun
  reroll : Bool
  modifier : Option (Sign × DigitRun)
  repetitions : Option (RepeatForm × DigitRun)
  count_pos : ∀ run ∈ count, 1 ≤ run.value
  two_le_sides : 2 ≤ sides.value
  repetitions_pos : ∀ part ∈ repetitions, 1 ≤ part.2.value

/-- The characters that follow the sides of a phrase. -/
def Phrase.tail (phrase : Phrase) : List Char :=
  rerollChars phrase.reroll ++ (modifierChars phrase.modifier ++ repetitionChars phrase.repetitions)

/-- The characters of a phrase. -/
def Phrase.chars (phrase : Phrase) : List Char :=
  countChars phrase.count ++ 'd' :: (phrase.sides.digits ++ phrase.tail)

/-- The text of a phrase. -/
def Phrase.text (phrase : Phrase) : String := String.ofList phrase.chars

/-- The expression that a phrase writes. What is left out is one die, no modifier and one
repetition. -/
def Phrase.expression (phrase : Phrase) : Expression where
  count := ((phrase.count.map DigitRun.value).getD 1 : Nat)
  sides := phrase.sides.value
  reroll := phrase.reroll
  modifier := (phrase.modifier.map fun part => part.1.apply part.2.value).getD 0
  repetitions := ((phrase.repetitions.map fun part => part.2.value).getD 1 : Nat)

/-- A run of digits before these characters ends there. -/
def EndsRun (rest : List Char) : Prop := ∀ c ∈ rest.head?, isDigit c = false

@[simp] theorem endsRun_nil : EndsRun [] := by simp [EndsRun]

@[simp] theorem endsRun_cons {c : Char} {rest : List Char} :
    EndsRun (c :: rest) ↔ isDigit c = false := by
  simp [EndsRun]

theorem EndsRun.takeWhile_eq_nil {rest : List Char} (ends : EndsRun rest) :
    rest.takeWhile isDigit = [] := by
  cases rest with
  | nil => rfl
  | cons c rest => rw [List.takeWhile_cons_of_neg (by simpa using ends)]

theorem EndsRun.dropWhile_eq_self {rest : List Char} (ends : EndsRun rest) :
    rest.dropWhile isDigit = rest := by
  cases rest with
  | nil => rfl
  | cons c rest => rw [List.dropWhile_cons_of_neg (by simpa using ends)]

/-- What is left after the digits at the front does not begin with one. -/
theorem endsRun_dropWhile (cs : List Char) : EndsRun (cs.dropWhile isDigit) := by
  intro c first
  have refused := List.head?_dropWhile_not isDigit cs
  rw [Option.mem_def.1 first] at refused
  simpa using refused

/-- A list of digits is cut off where the run ends. -/
theorem takeWhile_digits_append {digits rest : List Char}
    (areDigits : ∀ c ∈ digits, isDigit c = true) (ends : EndsRun rest) :
    (digits ++ rest).takeWhile isDigit = digits := by
  rw [List.takeWhile_append_of_pos areDigits, ends.takeWhile_eq_nil, List.append_nil]

theorem dropWhile_digits_append {digits rest : List Char}
    (areDigits : ∀ c ∈ digits, isDigit c = true) (ends : EndsRun rest) :
    (digits ++ rest).dropWhile isDigit = rest := by
  rw [List.dropWhile_append_of_pos areDigits, ends.dropWhile_eq_self]

/-- Two lists of digits that are followed by no digit cannot share a boundary in two places. -/
theorem digits_append_inj {digits digits' rest rest' : List Char}
    (areDigits : ∀ c ∈ digits, isDigit c = true) (areDigits' : ∀ c ∈ digits', isDigit c = true)
    (ends : EndsRun rest) (ends' : EndsRun rest') (same : digits ++ rest = digits' ++ rest') :
    digits = digits' ∧ rest = rest' := by
  constructor
  · rw [← takeWhile_digits_append areDigits ends, same, takeWhile_digits_append areDigits' ends']
  · rw [← dropWhile_digits_append areDigits ends, same, dropWhile_digits_append areDigits' ends']

/-- Runs that are cut off in one text are the same. -/
theorem DigitRun.append_inj {run run' : DigitRun} {rest rest' : List Char} (ends : EndsRun rest)
    (ends' : EndsRun rest') (same : run.digits ++ rest = run'.digits ++ rest') :
    run = run' ∧ rest = rest' := by
  obtain ⟨digits, rests⟩ := digits_append_inj run.areDigits run'.areDigits ends ends' same
  exact ⟨DigitRun.ext digits, rests⟩

theorem countChars_areDigits (count : Option DigitRun) :
    ∀ c ∈ countChars count, isDigit c = true := by
  cases count with
  | none => simp [countChars]
  | some run => exact run.areDigits

theorem countChars_injective : Function.Injective countChars := by
  intro left right same
  cases left with
  | none =>
    cases right with
    | none => rfl
    | some run => exact absurd same.symm run.nonempty
  | some run =>
    cases right with
    | none => exact absurd same run.nonempty
    | some run' => exact congrArg some (DigitRun.ext same)

theorem endsRun_closing (form : RepeatForm) : EndsRun form.closing := by
  cases form with
  | star => exact endsRun_nil
  | brackets => exact endsRun_cons.2 (by decide)

/-- What follows a modifier begins with no digit. -/
theorem endsRun_repetitionChars (repetitions : Option (RepeatForm × DigitRun)) :
    EndsRun (repetitionChars repetitions) := by
  match repetitions with
  | none => simp [repetitionChars]
  | some (.star, _) => simp only [repetitionChars, endsRun_cons]; decide
  | some (.brackets, _) => simp only [repetitionChars, endsRun_cons]; decide

/-- Neither does what follows the mark for rerolls. -/
theorem endsRun_modifierChars_append {modifier : Option (Sign × DigitRun)} {rest : List Char}
    (ends : EndsRun rest) : EndsRun (modifierChars modifier ++ rest) := by
  match modifier with
  | none => exact ends
  | some (.plus, _) => simp only [modifierChars, List.cons_append, endsRun_cons]; decide
  | some (.minus, _) => simp only [modifierChars, List.cons_append, endsRun_cons]; decide

theorem Phrase.endsRun_tail (phrase : Phrase) : EndsRun phrase.tail := by
  unfold Phrase.tail
  cases phrase.reroll with
  | false => exact endsRun_modifierChars_append (endsRun_repetitionChars phrase.repetitions)
  | true => simp only [rerollChars, if_true, List.cons_append, endsRun_cons]; decide

theorem repetitionChars_injective : Function.Injective repetitionChars := by
  intro left right same
  match left, right with
  | none, none => rfl
  | none, some (form, run) => simp [repetitionChars] at same
  | some (form, run), none => simp [repetitionChars] at same
  | some (form, run), some (form', run') =>
    simp only [repetitionChars, List.cons.injEq] at same
    obtain ⟨rfl, -⟩ := DigitRun.append_inj (endsRun_closing form) (endsRun_closing form') same.2
    have forms : form = form' := by
      cases form <;> cases form' <;> simp_all [RepeatForm.opening]
    rw [forms]

/-- The first character of the repetitions is none of a modifier. -/
theorem repetitionChars_ne_sign (repetitions : Option (RepeatForm × DigitRun)) (sign : Sign)
    (rest : List Char) : repetitionChars repetitions ≠ sign.char :: rest := by
  match repetitions with
  | none => simp [repetitionChars]
  | some (form, run) => cases form <;> cases sign <;> simp [repetitionChars, RepeatForm.opening,
      Sign.char]

/-- The modifier and the repetitions are told apart. -/
theorem modifierChars_append_inj {modifier modifier' : Option (Sign × DigitRun)}
    {repetitions repetitions' : Option (RepeatForm × DigitRun)}
    (same : modifierChars modifier ++ repetitionChars repetitions =
      modifierChars modifier' ++ repetitionChars repetitions') :
    modifier = modifier' ∧ repetitions = repetitions' := by
  match modifier, modifier' with
  | none, none => exact ⟨rfl, repetitionChars_injective same⟩
  | none, some (sign, _) => exact absurd same (repetitionChars_ne_sign _ sign _)
  | some (sign, _), none => exact absurd same.symm (repetitionChars_ne_sign _ sign _)
  | some (sign, run), some (sign', run') =>
    simp only [modifierChars, List.cons_append, List.cons.injEq] at same
    obtain ⟨rfl, rests⟩ := DigitRun.append_inj (endsRun_repetitionChars _)
      (endsRun_repetitionChars _) same.2
    have signs : sign = sign' := by
      cases sign <;> cases sign' <;> simp_all [Sign.char]
    exact ⟨by rw [signs], repetitionChars_injective rests⟩

/-- What may follow the mark for rerolls does not begin with that mark. -/
theorem modifierChars_append_ne_reroll (modifier : Option (Sign × DigitRun))
    (repetitions : Option (RepeatForm × DigitRun)) (rest : List Char) :
    modifierChars modifier ++ repetitionChars repetitions ≠ 'r' :: rest := by
  match modifier, repetitions with
  | none, none => simp [modifierChars, repetitionChars]
  | none, some (.star, _) | none, some (.brackets, _) =>
    simp [modifierChars, repetitionChars, RepeatForm.opening]
  | some (.plus, _), _ | some (.minus, _), _ => simp [modifierChars, Sign.char]

/-- No text can be read in two ways. -/
theorem Phrase.text_injective : Function.Injective Phrase.text := by
  intro left right same
  have chars : left.chars = right.chars := String.ofList_injective same
  have stops : ∀ rest, EndsRun ('d' :: rest) := fun rest => endsRun_cons.2 (by decide)
  obtain ⟨counts, afterCount⟩ := digits_append_inj (countChars_areDigits _)
    (countChars_areDigits _) (stops _) (stops _) chars
  obtain ⟨sides, tails⟩ := DigitRun.append_inj left.endsRun_tail right.endsRun_tail
    (List.cons.inj afterCount).2
  unfold Phrase.tail rerollChars at tails
  have rerolls : left.reroll = right.reroll := by
    cases marked : left.reroll <;> cases marked' : right.reroll
    · rfl
    · simp only [marked, marked'] at tails
      exact absurd tails (modifierChars_append_ne_reroll _ _ _)
    · simp only [marked, marked'] at tails
      exact absurd tails.symm (modifierChars_append_ne_reroll _ _ _)
    · rfl
  rw [rerolls] at tails
  obtain ⟨modifiers, repetitions⟩ := modifierChars_append_inj (List.append_cancel_left tails)
  exact Phrase.ext (countChars_injective counts) sides rerolls modifiers repetitions

end DiceTray.Expression
