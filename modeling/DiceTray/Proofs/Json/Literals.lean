import DiceTray.Json.Reader
import DiceTray.Proofs.Sequence
import Mathlib.Data.List.TakeDrop
import Mathlib.Data.List.TakeWhile

/-!
# Numbers that stop the reader

A document is refused with a place, except where an integer of it is too long to be read. Each part
of the reader leaves an end of its text, so the digits that stop it stand in the text as they are.
-/

namespace DiceTray.Json

variable {α β : Type}

/-- Somewhere in a text stands an integer with more digits than are read. The digits are all that
there are, the first one is no zero, and neither a fraction nor an exponent follows. -/
def HoldsLiteral (cs : List Char) (length : Nat) : Prop :=
  ∃ digits rest, digits ++ rest <:+ cs ∧ digits.length = length ∧ digitLimit < length ∧
    (∀ c ∈ digits, c.isDigit = true) ∧ digits.head? ≠ some '0' ∧
    (∀ c ∈ rest.head?, c.isDigit = false) ∧ (splitFraction rest).1 = [] ∧
    splitExponent rest = none

theorem HoldsLiteral.of_suffix {cs part : List Char} {length : Nat} (suffix : part <:+ cs)
    (holds : HoldsLiteral part length) : HoldsLiteral cs length := by
  obtain ⟨digits, rest, within, others⟩ := holds
  exact ⟨digits, rest, within.trans suffix, others⟩

/-- What a part of the reader comes to on a text: it leaves an end of the text, or refuses it, or is
stopped by an integer of it. -/
inductive Reads (cs : List Char) : Except Halt (α × List Char) → Prop
  | value {value : α} {rest : List Char} (suffix : rest <:+ cs) : Reads cs (.ok (value, rest))
  | refused {reason : Reason} {rest : List Char} : Reads cs (.error (.refused reason rest))
  /-- An integer is too long. -/
  | literal {length : Nat} (holds : HoldsLiteral cs length) :
      Reads cs (.error (.number (.tooManyDigits length)))

namespace Reads

variable {cs part : List Char} {first : Except Halt (α × List Char)}
  {next : α × List Char → Except Halt (β × List Char)}

theorem of_suffix (reads : Reads part first) (suffix : part <:+ cs) : Reads cs first := by
  cases reads with
  | value left => exact .value (left.trans suffix)
  | refused => exact .refused
  | literal holds => exact .literal (holds.of_suffix suffix)

/-- One part after the other: the second one gets an end of the text. -/
theorem bind (reads : Reads cs first)
    (continues : ∀ value rest, rest <:+ cs → Reads cs (next (value, rest))) :
    Reads cs (first >>= next) := by
  cases reads with
  | value suffix => exact continues _ _ suffix
  | refused => exact .refused
  | literal holds => exact .literal holds

end Reads

theorem skipSpace_suffix (cs : List Char) : skipSpace cs <:+ cs := List.dropWhile_suffix _

/-- What stands behind the first character after white space. -/
theorem suffix_of_skipSpace {cs after : List Char} {c : Char} (found : skipSpace cs = c :: after) :
    after <:+ cs :=
  (List.suffix_cons c after).trans (found ▸ skipSpace_suffix cs)

theorem reads_scanPieces (opening : List Char) (read : List Piece) (cs : List Char) :
    Reads cs (scanPieces opening read cs) := by
  -- What is left of a string is left behind each piece of it.
  fun_induction scanPieces opening read cs with
  | case2 => exact .value (List.suffix_cons _ _)
  | case5 | case8 | case11 =>
    rename_i inductionHypothesis
    exact inductionHypothesis.of_suffix (by simp [List.suffix_cons_iff])
  | _ => exact .refused

theorem reads_readString {opening cs : List Char} : Reads cs (readString opening cs) :=
  (reads_scanPieces opening [] cs).bind fun _ _ suffix => .value suffix

/-- The digits of an integer part are all that there are, but for a zero, behind which it ends. -/
theorem splitWhole_spec (cs : List Char) : (splitWhole cs).1 ++ (splitWhole cs).2 = cs ∧
    (∀ c ∈ (splitWhole cs).1, c.isDigit = true) ∧
    ((splitWhole cs).1 = ['0'] ∨ (splitWhole cs).1.head? ≠ some '0' ∧
      ∀ c ∈ (splitWhole cs).2.head?, c.isDigit = false) := by
  unfold splitWhole
  split
  · next rest => exact ⟨rfl, List.forall_mem_singleton.2 rfl, .inl rfl⟩
  · next other =>
    rw [List.span_eq_takeWhile_dropWhile]
    refine ⟨List.takeWhile_append_dropWhile, fun c => List.mem_takeWhile_imp, .inr ⟨?_, ?_⟩⟩
    · cases cs with
      | nil => exact nofun
      | cons c rest =>
        rw [List.takeWhile_cons]
        split
        · rintro zero
          cases zero
          exact other rest rfl
        · exact nofun
    · intro c first
      have ended := List.head?_dropWhile_not Char.isDigit cs
      rw [Option.mem_def.1 first] at ended
      simpa using ended

/-- A fraction is taken from the front of a text, or the text is left as it is. -/
theorem splitFraction_spec (cs : List Char) : (splitFraction cs).2 <:+ cs ∧
    ((splitFraction cs).1 = [] → (splitFraction cs).2 = cs) := by
  unfold splitFraction
  split
  · next rest =>
    split
    · exact ⟨List.suffix_rfl, fun _ => rfl⟩
    · next digits =>
      rw [List.span_eq_takeWhile_dropWhile]
      exact ⟨(List.dropWhile_suffix _).trans (List.suffix_cons '.' rest),
        fun none => absurd (List.isEmpty_iff.2 none) digits⟩
  · exact ⟨List.suffix_rfl, fun _ => rfl⟩

theorem splitSign_suffix (cs : List Char) : (splitSign cs).2 <:+ cs := by
  unfold splitSign
  split
  · exact List.suffix_cons _ _
  · exact List.suffix_cons _ _
  · exact List.suffix_rfl

theorem suffix_of_splitExponent {cs digits after : List Char} {negative : Bool}
    (found : splitExponent cs = some (negative, digits, after)) : after <:+ cs := by
  unfold splitExponent at found
  split at found
  · next e rest =>
    have signless := splitSign_suffix rest
    split at found
    · rcases splitSign rest with ⟨negative, body⟩
      dsimp only at found signless
      rw [List.span_eq_takeWhile_dropWhile] at found
      dsimp only at found
      split at found
      · cases found
      · cases found
        exact (List.dropWhile_suffix _).trans (signless.trans (List.suffix_cons e rest))
    · cases found
  · cases found

/-- A number without a fraction and an exponent is an integer, which may be too long. -/
theorem reads_readNumber {negative : Bool} {whole rest cs : List Char}
    (parted : splitWhole cs = (whole, rest)) : Reads cs (readNumber negative whole rest) := by
  obtain ⟨parts, digits, longest⟩ := splitWhole_spec cs
  obtain ⟨behind, unchanged⟩ := splitFraction_spec rest
  rw [parted] at parts digits longest
  dsimp only at parts digits longest
  have left : rest <:+ cs := ⟨whole, parts⟩
  rw [readNumber]
  dsimp only
  split
  · next exponent found =>
    exact .value ((suffix_of_splitExponent found).trans (behind.trans left))
  · next none =>
    split
    · next fraction =>
      have fraction := List.isEmpty_iff.1 fraction
      split
      · next long =>
        rcases longest with zero | ⟨nonzero, ends⟩
        · rw [zero] at long
          exact absurd long (by decide)
        · rw [unchanged fraction] at none
          exact .literal ⟨whole, rest, parts ▸ List.suffix_rfl, rfl, long, digits, nonzero, ends,
            fraction, none⟩
      · exact .value left
    · exact .value (behind.trans left)

theorem reads_readAtom (cs : List Char) : Reads cs (readAtom cs) := by
  unfold readAtom
  split
  · exact .value (List.drop_suffix _ _)
  · split
    next negative body signed =>
    have within : body <:+ cs := by
      split at signed
      · cases signed
        exact List.suffix_cons '-' body
      · cases signed
        exact List.suffix_rfl
    rcases parted : splitWhole body with ⟨whole, rest⟩
    dsimp only
    split
    · exact .refused
    · exact (reads_readNumber parted).of_suffix within

/-- The reader of values, and with it those of items and members, whatever the bound. -/
theorem reads_readValue (bound : Nat) : (∀ cs, Reads cs (readValue bound cs)) ∧
    (∀ cs, Reads cs (readItems bound cs)) ∧ ∀ cs, Reads cs (readMembers bound cs) := by
  induction bound with
  | zero =>
    refine ⟨fun cs => ?_, fun cs => ?_, fun cs => ?_⟩
    · rw [readValue]
      exact .refused
    · rw [readItems]
      exact .refused
    · rw [readMembers]
      exact .refused
  | succ bound inductionHypothesis =>
    obtain ⟨value, items, members⟩ := inductionHypothesis
    refine ⟨fun cs => ?_, fun cs => ?_, fun cs => ?_⟩
    · rw [readValue.eq_def]
      dsimp only
      split
      · next rest =>
        refine Reads.of_suffix ?_ (List.suffix_cons '"' rest)
        exact reads_readString.bind fun _ _ suffix => .value suffix
      · next rest =>
        refine Reads.of_suffix ?_ (List.suffix_cons '[' rest)
        split
        · next after found => exact .value (suffix_of_skipSpace found)
        · exact ((items _).of_suffix (skipSpace_suffix rest)).bind fun _ _ suffix => .value suffix
      · next rest =>
        refine Reads.of_suffix ?_ (List.suffix_cons '{' rest)
        split
        · next after found => exact .value (suffix_of_skipSpace found)
        · exact ((members _).of_suffix (skipSpace_suffix rest)).bind fun _ _ suffix => .value suffix
      · exact reads_readAtom cs
    · rw [readItems]
      refine (value cs).bind fun item rest left => ?_
      dsimp only
      split
      · next after found => exact .value ((suffix_of_skipSpace found).trans left)
      · next after found =>
        have within := (skipSpace_suffix after).trans ((suffix_of_skipSpace found).trans left)
        exact ((items _).of_suffix within).bind fun _ _ suffix => .value suffix
      · exact .refused
    · rw [readMembers.eq_def]
      dsimp only
      split
      · next rest =>
        refine Reads.of_suffix ?_ (List.suffix_cons '"' rest)
        refine reads_readString.bind fun name left suffix => ?_
        dsimp only
        split
        · next body colon =>
          have within := (skipSpace_suffix body).trans ((suffix_of_skipSpace colon).trans suffix)
          refine ((value _).of_suffix within).bind fun item behind left => ?_
          dsimp only
          split
          · next after found => exact .value ((suffix_of_skipSpace found).trans left)
          · next after found =>
            have within := (skipSpace_suffix after).trans ((suffix_of_skipSpace found).trans left)
            exact ((members _).of_suffix within).bind fun _ _ suffix => .value suffix
          · exact .refused
        · exact .refused
      · exact .refused

/-- A number at which the reading of a text ends is an integer of the text that is too long. -/
theorem holdsLiteral_of_read {text : String} {error : NumberError}
    (stopped : read text = .error (.number error)) :
    ∃ length, HoldsLiteral text.toList length ∧ error = .tooManyDigits length := by
  have found : readDocument text.toList = .error (.number error) := by
    rw [read] at stopped
    split at stopped
    · cases stopped
    · cases stopped
    · next cause failed =>
      cases stopped
      exact failed
  unfold readDocument at found
  split at found
  · cases found
  · have reads := (reads_readValue (text.toList.length + 1)).1 (skipSpace text.toList)
    rcases bind_eq_error_iff.1 found with failed | ⟨⟨value, rest⟩, -, ended⟩
    · rw [failed] at reads
      cases reads with
      | literal holds => exact ⟨_, holds.of_suffix (skipSpace_suffix _), rfl⟩
    · dsimp only at ended
      split at ended
      · cases ended
      · cases ended

end DiceTray.Json
