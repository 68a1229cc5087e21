import DiceTray.Json.Reader
import DiceTray.Json.Writer
import Mathlib.Tactic.IntervalCases

/-!
# Strings of documents

Every string is read back from its written form: a character is written as itself, by a short escape
or by its code unit, and the reader turns each of these into one piece. The written form holds no
carriage return, so it is not touched when line ends are unified.
-/

namespace DiceTray.Json

/-- The characters that are written by their code unit. -/
def isEscapedByUnit (c : Char) : Bool :=
  c.toNat < 0x20 && !(c = '\n' || c = '\r' || c = '\t' || c = '\x08' || c = '\x0c')

/-- The piece that the written form of a character is read as. -/
def pieceOf (c : Char) : Piece :=
  if isEscapedByUnit c then .unit c.toNat else .char c

/-- The code unit of a control character is written with four digits that give it back. -/
theorem codeUnit_hexadecimal :
    ∀ code < 0x20, ∃ a b c d, Text.hexadecimal 4 code = [a, b, c, d] ∧
      codeUnit? a b c d = some code := by
  intro code small
  interval_cases code <;> exact ⟨_, _, _, _, rfl, by decide⟩

section Steps

variable (opening : List Char) (read : List Piece) (rest : List Char)

theorem scanPieces_close : scanPieces opening read ('"' :: rest) = .ok (read.reverse, rest) := by
  rw [scanPieces.eq_def]
  simp

theorem scanPieces_plain {c : Char} (quote : c ≠ '"') (backslash : c ≠ '\\')
    (shown : ¬ c.toNat < 0x20) :
    scanPieces opening read (c :: rest) = scanPieces opening (.char c :: read) rest := by
  rw [scanPieces.eq_def]
  simp [quote, backslash, shown]

theorem scanPieces_short {e image : Char} (short : shortEscape? e = some image) :
    scanPieces opening read ('\\' :: e :: rest) =
      scanPieces opening (.char image :: read) rest := by
  have other : e ≠ 'u' := by
    rintro rfl
    have none : shortEscape? 'u' = none := rfl
    rw [none] at short
    cases short
  rw [scanPieces.eq_def]
  simp [other, short]

theorem scanPieces_unit {a b c d : Char} {code : Nat} (value : codeUnit? a b c d = some code)
    (more : rest ≠ []) :
    scanPieces opening read ('\\' :: 'u' :: a :: b :: c :: d :: rest) =
      scanPieces opening (.unit code :: read) rest := by
  rw [scanPieces.eq_def]
  simp [value, more]

end Steps

/-- The written form of a character is read as one piece, if the string does not end within it. -/
theorem scanPieces_escapeChar (opening : List Char) (read : List Piece) (c : Char)
    {rest : List Char} (more : rest ≠ []) :
    scanPieces opening read (escapeChar c ++ rest) =
      scanPieces opening (pieceOf c :: read) rest := by
  by_cases quote : c = '"'
  · subst quote; exact scanPieces_short _ _ _ rfl
  by_cases backslash : c = '\\'
  · subst backslash; exact scanPieces_short _ _ _ rfl
  by_cases newline : c = '\n'
  · subst newline; exact scanPieces_short _ _ _ rfl
  by_cases return' : c = '\r'
  · subst return'; exact scanPieces_short _ _ _ rfl
  by_cases tab : c = '\t'
  · subst tab; exact scanPieces_short _ _ _ rfl
  by_cases backspace : c = '\x08'
  · subst backspace; exact scanPieces_short _ _ _ rfl
  by_cases formFeed : c = '\x0c'
  · subst formFeed; exact scanPieces_short _ _ _ rfl
  by_cases control : c.toNat < 0x20
  · obtain ⟨h₁, h₂, h₃, h₄, digits, value⟩ := codeUnit_hexadecimal c.toNat control
    have piece : pieceOf c = .unit c.toNat := by
      simp [pieceOf, isEscapedByUnit, newline, return', tab, backspace, formFeed, control]
    simp only [escapeChar, quote, backslash, newline, return', tab, backspace, formFeed, control,
      digits, if_true, if_false, piece]
    exact scanPieces_unit _ _ _ value more
  · have piece : pieceOf c = .char c := by simp [pieceOf, isEscapedByUnit, control]
    simp only [escapeChar, quote, backslash, newline, return', tab, backspace, formFeed, control,
      if_false, piece]
    exact scanPieces_plain _ _ _ quote backslash control

/-- A written string is read as the pieces of its characters, up to the mark that closes it. -/
theorem scanPieces_flatMap (opening : List Char) (cs rest : List Char) (read : List Piece) :
    scanPieces opening read (cs.flatMap escapeChar ++ '"' :: rest) =
      .ok (read.reverse ++ cs.map pieceOf, rest) := by
  induction cs generalizing read with
  | nil => simp [scanPieces_close]
  | cons c cs inductionHypothesis =>
    rw [List.flatMap_cons, List.append_assoc, scanPieces_escapeChar _ _ _ (by simp),
      inductionHypothesis]
    simp

/-- The pieces of characters are joined to these characters: no code unit among them is a
surrogate. -/
theorem joinPieces_map_pieceOf (cs : List Char) : joinPieces (cs.map pieceOf) = cs := by
  have unit : ∀ c : Char, isEscapedByUnit c = true →
      c.toNat < 0x20 ∧ (if c.toNat.isValidChar then Char.ofNat c.toNat else '\uFFFD') = c := by
    intro c escaped
    simp only [isEscapedByUnit, Bool.and_eq_true, decide_eq_true_eq] at escaped
    exact ⟨escaped.1, by rw [if_pos (show c.toNat.isValidChar from c.valid), Char.ofNat_toNat]⟩
  induction cs with
  | nil => rfl
  | cons c cs inductionHypothesis =>
    rw [List.map_cons]
    by_cases escaped : isEscapedByUnit c = true
    · obtain ⟨small, char⟩ := unit c escaped
      have low : ¬ 0xD800 ≤ c.toNat := by omega
      cases cs with
      | nil => simp only [List.map_nil, pieceOf, escaped, if_true, joinPieces, char]
      | cons next cs =>
        rw [List.map_cons] at inductionHypothesis ⊢
        by_cases following : isEscapedByUnit next = true
        · simp only [pieceOf, escaped, following, if_true] at inductionHypothesis ⊢
          simp only [joinPieces, low, false_and, if_false, char, inductionHypothesis]
        · simp only [pieceOf, escaped, following, if_true, if_false, Bool.false_eq_true]
            at inductionHypothesis ⊢
          simp only [joinPieces, char] at inductionHypothesis ⊢
          rw [(List.cons.inj inductionHypothesis).2]
    · simp only [pieceOf, escaped, Bool.false_eq_true, if_false, joinPieces]
      exact congrArg (c :: ·) inductionHypothesis

/-- A string is read back from its written form. -/
theorem readString_writeString (text : String) (opening rest : List Char) :
    readString opening (text.toList.flatMap escapeChar ++ '"' :: rest) = .ok (text, rest) := by
  rw [readString, scanPieces_flatMap]
  simp only [bind, Except.bind, pure, Except.pure, List.reverse_nil, List.nil_append,
    joinPieces_map_pieceOf, String.ofList_toList]

/-- No character is written with a carriage return. -/
theorem return_notMem_escapeChar (c : Char) : '\r' ∉ escapeChar c := by
  have digits : ∀ code < 0x20, '\r' ∉ Text.hexadecimal 4 code := by
    intro code small
    interval_cases code <;> decide
  unfold escapeChar
  split_ifs with _ _ _ return' _ _ _ control
  · decide
  · decide
  · decide
  · decide
  · decide
  · decide
  · decide
  · simpa using digits c.toNat control
  · simpa using Ne.symm return'

end DiceTray.Json
