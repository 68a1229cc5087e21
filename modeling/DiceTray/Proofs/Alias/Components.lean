import DiceTray.Alias.Color
import DiceTray.Proofs.Expression.Grammar
import DiceTray.Proofs.Number.Numeral
import DiceTray.Proofs.Text.Layout
import Mathlib.Data.List.TakeWhile

/-!
# Components of colours

A colour may be given by three components between parentheses, and each of them is read as a
number. White space counts as a character of components wherever it stands, but a number has it
only at its ends, so some texts of the right shape are no numbers; for these, checking the colour is
an error. This says which texts they are.
-/

namespace DiceTray

open Text

/-- Digits are no white space. -/
theorem isBlank_of_isDigit {c : Char} (digit : isDigit c = true) : isBlank c = false := by
  have apart : ∀ start ∈ digitZeros, ∀ range ∈ blankClass,
      start + 10 ≤ range.1 ∨ range.2 < start := by decide
  rw [isDigit, digitValue?, Option.isSome_map, Option.isSome_iff_exists] at digit
  obtain ⟨start, found⟩ := digit
  have inside := List.find?_some found
  simp only [Bool.and_eq_true, decide_eq_true_eq] at inside
  rw [isBlank, Bool.eq_false_iff, Ne, CharClass.contains_iff]
  rintro ⟨range, member, bounds⟩
  have := apart start (List.mem_of_find?_eq_some found) range member
  omega

theorem isMargin_of_isDigit {c : Char} (digit : isDigit c = true) : isMargin c = false := by
  rw [isMargin, isBlank_of_isDigit digit, Bool.false_and]

/-- A component that is read: the digits of a number, with white space around it. -/
def IsComponent (part : List Char) : Prop :=
  ∃ (before after : List Char) (run : Expression.DigitRun), part = before ++ (run.digits ++ after) ∧
    (∀ c ∈ before, isMargin c = true) ∧ ∀ c ∈ after, isMargin c = true

/-- The part of a component that is read as its digits. -/
def componentRun (part : List Char) : List Char := (part.dropWhile isMargin).takeWhile isDigit

/-- Signs and underscores are no characters of components, so a component is read as its digits. -/
theorem readInteger_component {part : List Char}
    (chars : ∀ c ∈ part, isDigit c = true ∨ isBlank c = true) :
    readInteger (String.ofList part) =
      if componentRun part = [] then .error (.notAnInteger (String.ofList part))
      else if digitLimit < (componentRun part).length then
        .error (.tooManyDigits (componentRun part).length)
      else if ((part.dropWhile isMargin).dropWhile isDigit).all isMargin then
        .ok (numeral (componentRun part))
      else .error (.notAnInteger (String.ofList part)) := by
  have free : ∀ c ∈ part.dropWhile isMargin, c ≠ '-' ∧ c ≠ '+' ∧ c ≠ '_' := by
    intro c member
    have allowed := chars c ((List.dropWhile_suffix _).subset member)
    refine ⟨?_, ?_, ?_⟩ <;> rintro rfl <;> exact absurd allowed (by decide)
  have signed : splitSign (part.dropWhile isMargin) = (false, part.dropWhile isMargin) := by
    unfold splitSign
    split
    · next rest whole => exact absurd rfl (free '-' (whole ▸ List.mem_cons_self)).1
    · next rest whole => exact absurd rfl (free '+' (whole ▸ List.mem_cons_self)).2.1
    · rfl
  have plain : '_' ∉ componentRun part := fun member =>
    (free '_' ((List.takeWhile_prefix _).subset member)).2.2 rfl
  have run : (part.dropWhile isMargin).takeWhile (fun c => isDigit c || c = '_') =
      componentRun part := by
    rw [componentRun]
    generalize part.dropWhile isMargin = body at free
    induction body with
    | nil => rfl
    | cons c rest inductionHypothesis =>
      obtain ⟨here, later⟩ := List.forall_mem_cons.1 free
      rw [List.takeWhile_cons, List.takeWhile_cons, decide_eq_false here.2.2, Bool.or_false,
        inductionHypothesis later]
  have clean : (componentRun part).filter (· ≠ '_') = componentRun part :=
    List.filter_eq_self.2 fun c member => decide_eq_true fun same => plain (same ▸ member)
  have behind : (part.dropWhile isMargin).drop (componentRun part).length =
      (part.dropWhile isMargin).dropWhile isDigit := by
    have parts := List.takeWhile_append_dropWhile (p := isDigit) (l := part.dropWhile isMargin)
    calc (part.dropWhile isMargin).drop (componentRun part).length
      _ = (componentRun part ++ (part.dropWhile isMargin).dropWhile isDigit).drop
            (componentRun part).length := by rw [componentRun, parts]
      _ = _ := List.drop_left
  rw [readInteger, String.toList_ofList, signed]
  dsimp only
  rw [run, clean, behind, underscoresBetween_of_notMem plain, Bool.false_or, Bool.not_not]
  by_cases none : componentRun part = []
  · rw [if_pos (List.isEmpty_iff.2 none), if_pos none]
  · rw [if_neg (by simpa using none), if_neg none]
    split
    · rfl
    · cases ((part.dropWhile isMargin).dropWhile isDigit).all isMargin <;> rfl

/-- Which parts of the characters of components are read. -/
theorem isComponent_iff {part : List Char}
    (chars : ∀ c ∈ part, isDigit c = true ∨ isBlank c = true) :
    IsComponent part ↔ ∃ n, readInteger (String.ofList part) = .ok n := by
  rw [readInteger_component chars]
  constructor
  · rintro ⟨before, after, run, rfl, margin, margin'⟩
    have ends : Expression.EndsRun after := fun c first =>
      Bool.eq_false_iff.2 fun digit => Bool.eq_false_iff.1 (isMargin_of_isDigit digit)
        (margin' c (List.mem_of_head? first))
    have body : (before ++ (run.digits ++ after)).dropWhile isMargin = run.digits ++ after := by
      rw [List.dropWhile_append_of_pos margin]
      obtain ⟨c, rest, digits⟩ := List.exists_cons_of_ne_nil run.nonempty
      rw [digits, List.cons_append, List.dropWhile_cons_of_neg]
      rw [isMargin_of_isDigit (run.areDigits c (digits ▸ List.mem_cons_self))]
      exact Bool.false_ne_true
    rw [componentRun, body, Expression.takeWhile_digits_append run.areDigits ends,
      Expression.dropWhile_digits_append run.areDigits ends, if_neg run.nonempty,
      if_neg (Nat.not_lt.2 run.withinLimit), if_pos (List.all_eq_true.2 margin')]
    exact ⟨_, rfl⟩
  · rintro ⟨n, read⟩
    split at read
    · cases read
    · next present =>
      split at read
      · cases read
      · next short =>
        split at read
        · next margins =>
          refine ⟨part.takeWhile isMargin, (part.dropWhile isMargin).dropWhile isDigit,
            ⟨componentRun part, present, fun c => List.mem_takeWhile_imp, Nat.not_lt.1 short⟩,
            ?_, fun c => List.mem_takeWhile_imp, List.all_eq_true.1 margins⟩
          change part = part.takeWhile isMargin ++ (componentRun part ++ _)
          rw [componentRun, List.takeWhile_append_dropWhile, List.takeWhile_append_dropWhile]
        · cases read

theorem enclosed?_eq_some_iff {opening cs inner : List Char} :
    enclosed? opening cs = some inner ↔ cs = opening ++ (inner ++ [')']) := by
  rw [enclosed?]
  constructor
  · intro found
    split at found
    · next around =>
      cases found
      simp only [Bool.and_eq_true, List.isPrefixOf_iff_prefix, decide_eq_true_eq] at around
      obtain ⟨⟨⟨rest, rfl⟩, last⟩, longer⟩ := around
      rcases List.eq_nil_or_concat rest with rfl | ⟨body, c, rfl⟩
      · rw [List.append_nil] at longer
        exact absurd longer (Nat.lt_irrefl _)
      · rw [List.concat_eq_append, ← List.append_assoc, List.getLast?_concat,
          Option.some.injEq] at last
        rw [List.drop_left, List.concat_eq_append, List.dropLast_concat, last]
    · cases found
  · rintro rfl
    have around : (opening.isPrefixOf (opening ++ (inner ++ [')'])) &&
        decide ((opening ++ (inner ++ [')'])).getLast? = some ')') &&
          decide (opening.length < (opening ++ (inner ++ [')'])).length)) = true := by
      simp only [Bool.and_eq_true, List.isPrefixOf_iff_prefix, decide_eq_true_eq]
      refine ⟨⟨List.prefix_append _ _, ?_⟩, ?_⟩
      · rw [← List.append_assoc, List.getLast?_concat]
      · simp only [List.length_append, List.length_singleton]
        omega
    rw [if_pos around, List.drop_left, List.dropLast_concat]

/-- Three parts in the form of components, one of which is no number that is read. -/
def HasFaultyComponent (cs : List Char) : Prop :=
  ∃ red green blue, cs = "rgb(".toList ++ (red ++ ',' :: (green ++ ',' :: blue) ++ [')']) ∧
    (∀ part ∈ [red, green, blue], ∀ c ∈ part, isDigit c = true ∨ isBlank c = true) ∧
    ∃ part ∈ [red, green, blue], ¬ IsComponent part

/-- Three numbers are read one after the other unless one of them is none. -/
theorem readComponents_eq_error_iff {red green blue : List Char}
    (chars : ∀ part ∈ [red, green, blue], ∀ c ∈ part, isDigit c = true ∨ isBlank c = true) :
    (∃ error, (do
      let red ← readInteger (String.ofList red)
      let green ← readInteger (String.ofList green)
      let blue ← readInteger (String.ofList blue)
      return decide (red ≤ 255) && decide (green ≤ 255) && decide (blue ≤ 255) :
        Except NumberError Bool) = .error error) ↔
      ∃ part ∈ [red, green, blue], ¬ IsComponent part := by
  simp only [List.forall_mem_cons] at chars
  obtain ⟨reds, greens, blues, -⟩ := chars
  simp only [List.mem_cons, List.not_mem_nil, or_false, exists_eq_or_imp, exists_eq_left,
    isComponent_iff reds, isComponent_iff greens, isComponent_iff blues]
  cases readInteger (String.ofList red) with
  | error error => simp [bind, Except.bind]
  | ok _ =>
    cases readInteger (String.ofList green) with
    | error error => simp [bind, Except.bind]
    | ok _ =>
      cases readInteger (String.ofList blue) with
      | error error => simp [bind, Except.bind]
      | ok _ => simp [bind, Except.bind, pure, Except.pure]

/-- Characters of components fall into three parts at their commas exactly when they are three parts
of digits and white space with a comma behind the first and the second. -/
theorem splitChars_eq_parts_iff {inner red green blue : List Char} :
    ((inner.isEmpty || !inner.all isComponentChar) = false ∧
      splitChars ',' inner = [red, green, blue]) ↔
    inner = red ++ ',' :: (green ++ ',' :: blue) ∧
      ∀ part ∈ [red, green, blue], ∀ c ∈ part, isDigit c = true ∨ isBlank c = true := by
  have joined : [','].intercalate [red, green, blue] = red ++ ',' :: (green ++ ',' :: blue) := by
    simp [List.intercalate]
  have component (c : Char) :
      isComponentChar c = true ↔ (isDigit c = true ∨ isBlank c = true) ∨ c = ',' := by
    simp [isComponentChar]
  rw [splitChars_eq_splitOn, Bool.or_eq_false_iff, Bool.not_eq_false', List.all_eq_true, ← joined]
  constructor
  · rintro ⟨⟨-, shape⟩, parts⟩
    have whole : inner = [','].intercalate [red, green, blue] := by
      rw [← parts, List.intercalate_splitOn]
    refine ⟨whole, fun part member c among => ?_⟩
    have within : c ∈ inner := by
      rw [whole, joined]
      simp only [List.mem_cons, List.not_mem_nil, or_false] at member
      simp only [List.mem_append, List.mem_cons]
      rcases member with rfl | rfl | rfl
      · exact .inl among
      · exact .inr (.inr (.inl among))
      · exact .inr (.inr (.inr (.inr among)))
    refine ((component c).1 (shape c within)).resolve_right ?_
    rintro rfl
    exact notMem_of_mem_splitOn (parts ▸ member) among
  · rintro ⟨rfl, chars⟩
    have unparted : ∀ part ∈ [red, green, blue], ',' ∉ part := fun part member among =>
      absurd (chars part member ',' among) (by decide)
    refine ⟨⟨?_, fun c member => (component c).2 ?_⟩,
      List.splitOn_intercalate ',' unparted (List.cons_ne_nil _ _)⟩
    · rw [joined]
      cases red <;> rfl
    · rw [joined] at member
      simp only [List.forall_mem_cons] at chars
      obtain ⟨reds, greens, blues, -⟩ := chars
      simp only [List.mem_append, List.mem_cons] at member
      rcases member with red | comma | green | comma | blue
      · exact .inl (reds c red)
      · exact .inr comma
      · exact .inl (greens c green)
      · exact .inr comma
      · exact .inl (blues c blue)

theorem isComponentColor_eq_error_iff {cs : List Char} :
    (∃ error, isComponentColor cs = .error error) ↔ HasFaultyComponent cs := by
  constructor
  · rintro ⟨error, failed⟩
    rw [isComponentColor] at failed
    split at failed
    · next inner found =>
      split at failed
      · cases failed
      · next shape =>
        split at failed
        · next red green blue parts =>
          obtain ⟨whole, chars⟩ :=
            splitChars_eq_parts_iff.1 ⟨Bool.eq_false_iff.2 shape, parts⟩
          exact ⟨red, green, blue, whole ▸ enclosed?_eq_some_iff.1 found, chars,
            (readComponents_eq_error_iff chars).1 ⟨error, failed⟩⟩
        · cases failed
    · cases failed
  · rintro ⟨red, green, blue, whole, chars, faulty⟩
    obtain ⟨shape, parts⟩ := splitChars_eq_parts_iff.2 ⟨rfl, chars⟩
    rw [isComponentColor, enclosed?_eq_some_iff.2 whole]
    dsimp only
    rw [shape, if_neg Bool.false_ne_true, parts]
    exact (readComponents_eq_error_iff chars).2 faulty

/-- Checking a colour is an error exactly for texts in the form of components with one that is
faulty; case and white space around do not count. -/
theorem isColor_eq_error_iff {text : String} :
    (∃ error, isColor text = .error error) ↔
      HasFaultyComponent (trimChars (lowercaseChars text.toList)) := by
  rw [← isComponentColor_eq_error_iff, isColor]
  generalize trimChars (lowercaseChars text.toList) = cs
  constructor
  · rintro ⟨error, failed⟩
    split at failed
    · cases failed
    · split at failed
      · cases failed
      · exact ⟨error, failed⟩
  · intro failed
    obtain ⟨red, green, blue, whole, -, -⟩ := isComponentColor_eq_error_iff.1 failed
    -- No other way to give a colour begins as components do.
    obtain ⟨rest, begun⟩ : ∃ rest, cs = ['r', 'g', 'b', '('] ++ rest := ⟨_, whole⟩
    have unnamed : colorNames.contains (String.ofList cs) = false := by
      -- The bytes of the names are compared, which takes less than comparing their characters.
      have others : ∀ name ∈ colorNames,
          name.toByteArray.data.toList.take 4 ≠ [114, 103, 98, 40] := by
        decide +kernel
      rw [Bool.eq_false_iff, Ne, List.contains_iff_mem, begun, String.ofList_append]
      intro named
      refine others _ named ?_
      rw [String.toByteArray_append, ByteArray.data_append, Array.toList_append]
      rfl
    have default : cs ≠ "default".toList := by
      rw [begun]
      exact nofun
    have hexadecimal : isHexColor cs = false := by
      rw [begun]
      rfl
    have palette : isPaletteColor cs = false := by
      rw [begun]
      rfl
    rw [unnamed, decide_eq_false default, hexadecimal, palette]
    exact failed

end DiceTray
