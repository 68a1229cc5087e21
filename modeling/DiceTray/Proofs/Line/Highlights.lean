import DiceTray.Proofs.Line
import DiceTray.Proofs.Text.Pieces

/-!
# Highlights in lines

A line with highlights is put together piece by piece, and the positions of its styled parts are
counted along the pieces as they are displayed. Its text is that of the plain line without the
control characters that are not displayed, and the styled parts lie exactly under the dice whose
face has a colour, whatever stands before them.
-/

namespace DiceTray

section Display

open Text

theorem displayable_append (text more : String) :
    displayable (text ++ more) = displayable text ++ displayable more := by
  rw [displayable, String.toList_append, List.filter_append, String.ofList_append]
  rfl

theorem displayable_of_kept {text : String} (kept : ∀ c ∈ text.toList, isDropped c = false) :
    displayable text = text := by
  have all : text.toList.filter (fun c => !isDropped c) = text.toList :=
    List.filter_eq_self.2 fun c member => by rw [kept c member]; rfl
  rw [displayable, all, String.ofList_toList]

theorem isDropped_eq_false_of_mem_decimal {n : Int} {c : Char} (member : c ∈ (decimal n).toList) :
    isDropped c = false := by
  rcases mem_decimal member with rfl | digit
  · rfl
  · have bounds := bounds_of_isDigit digit
    apply Bool.eq_false_iff.2
    intro dropped
    simp only [isDropped, Bool.or_eq_true, decide_eq_true_eq] at dropped
    rcases dropped with (((rfl | rfl) | rfl) | rfl) | rfl <;> exact absurd bounds (by decide)

/-- Dice with blanks between them are displayed as they are. -/
theorem displayable_intercalate_decimal (values : List Int) :
    displayable (" ".intercalate (values.map decimal)) = " ".intercalate (values.map decimal) := by
  apply displayable_of_kept
  intro c member
  by_contra dropped
  apply notMem_intercalate _ _ member
  · intro blank
    rw [List.mem_singleton.1 blank] at dropped
    exact dropped rfl
  · refine List.forall_mem_map.2 fun value _ among => ?_
    exact dropped (isDropped_eq_false_of_mem_decimal among)

end Display

@[simp] theorem piecesText_nil : piecesText [] = "" := rfl

@[simp] theorem piecesText_cons (piece : Piece) (pieces : List Piece) :
    piecesText (piece :: pieces) = piece.text ++ piecesText pieces :=
  String.join_cons

@[simp] theorem piecesText_append (pieces more : List Piece) :
    piecesText (pieces ++ more) = piecesText pieces ++ piecesText more := by
  rw [piecesText, List.map_append, String.join_append]
  rfl

/-- The styled part of a piece at a position. -/
def Piece.span? (position : Nat) (piece : Piece) : Option Span :=
  piece.style.map fun style => ⟨position, position + piece.text.length, style⟩

theorem piecesSpans_cons (position : Nat) (piece : Piece) (rest : List Piece) :
    piecesSpans position (piece :: rest) =
      (piece.span? position).toList ++ piecesSpans (position + piece.text.length) rest := by
  rw [piecesSpans, Piece.span?]
  cases piece.style <;> rfl

/-- Positions are counted on behind the text of the pieces before. -/
theorem piecesSpans_append (position : Nat) (pieces more : List Piece) :
    piecesSpans position (pieces ++ more) =
      piecesSpans position pieces ++ piecesSpans (position + (piecesText pieces).length) more := by
  induction pieces generalizing position with
  | nil => rfl
  | cons piece rest inductionHypothesis =>
    rw [List.cons_append, piecesSpans_cons, piecesSpans_cons, inductionHypothesis,
      piecesText_cons, String.length_append, Nat.add_assoc, List.append_assoc]

/-- The colour of a die: that of the role of its face, unless it is missing or empty. -/
def Die.style? (color : Role → Option String) (die : Die) : Option String :=
  match die.face with
  | .highest => (color .high).filter (· ≠ "")
  | .lowest => (color .low).filter (· ≠ "")
  | .ordinary => none

/-- The place of a die in a shown line. -/
structure Place where
  die : Die
  /-- The position of its first character. -/
  start : Nat

namespace Place

/-- The position behind the last character of the die. -/
def stop (place : Place) : Nat := place.start + (decimal place.die.value).length

/-- The styled part under a die that has a colour. -/
def span? (color : Role → Option String) (place : Place) : Option Span :=
  (place.die.style? color).map fun style => ⟨place.start, place.stop, style⟩

/-- The value of the die stands at its place in a text. -/
def Marks (place : Place) (shown : String) : Prop :=
  ∃ before behind, shown = before ++ decimal place.die.value ++ behind ∧
    before.length = place.start

end Place

/-- The places of dice with single blanks between them, the first of which is at a position. -/
def placesFrom (start : Nat) : List Die → List Place
  | [] => []
  | die :: rest => ⟨die, start⟩ :: placesFrom (start + (decimal die.value).length + 1) rest

/-- The places of the dice of a line, behind the total and the text as they are displayed. -/
def Line.places (line : Line) : List Place :=
  placesFrom (Text.displayable (line.total ++ fieldGap ++ line.text ++ fieldGap)).length line.dice

section Places

variable {start : Nat} {dice : List Die} {color : Role → Option String}

theorem map_die_placesFrom (start : Nat) (dice : List Die) :
    (placesFrom start dice).map Place.die = dice := by
  induction dice generalizing start with
  | nil => rfl
  | cons die rest inductionHypothesis => rw [placesFrom, List.map_cons, inductionHypothesis]

theorem start_le_of_mem_placesFrom :
    ∀ place ∈ placesFrom start dice, start ≤ place.start := by
  induction dice generalizing start with
  | nil => nofun
  | cons die rest inductionHypothesis =>
    intro place member
    rcases List.mem_cons.1 member with rfl | later
    · exact Nat.le_refl start
    · have behind := inductionHypothesis place later
      omega

/-- A blank or more is between a place and those behind it. -/
theorem placesFrom_increasing (start : Nat) (dice : List Die) :
    (placesFrom start dice).Pairwise fun place later => place.stop < later.start := by
  induction dice generalizing start with
  | nil => exact .nil
  | cons die rest inductionHypothesis =>
    refine .cons (fun later member => ?_) (inductionHypothesis _)
    have behind := start_le_of_mem_placesFrom later member
    exact Nat.lt_of_lt_of_le (Nat.lt_succ_self _) behind

/-- At its place in a text in which the dice stand behind one another, each die has its value. -/
theorem marks_of_placesFrom {before behind : String} (length : before.length = start) :
    ∀ place ∈ placesFrom start dice, place.Marks
      (before ++ " ".intercalate (dice.map fun die => decimal die.value) ++ behind) := by
  induction dice generalizing start before with
  | nil => nofun
  | cons die rest inductionHypothesis =>
    have further : (before ++ decimal die.value ++ " ").length =
        start + (decimal die.value).length + 1 := by
      rw [String.length_append, String.length_append, length]
      rfl
    intro place member
    cases rest with
    | nil =>
      obtain rfl := List.mem_singleton.1 member
      exact ⟨before, behind, by simp, length⟩
    | cons next others =>
      have whole : before ++ " ".intercalate ((die :: next :: others).map fun die =>
          decimal die.value) ++ behind = before ++ decimal die.value ++ " " ++
          " ".intercalate ((next :: others).map fun die => decimal die.value) ++ behind := by
        simp only [List.map_cons, String.intercalate_cons_cons, String.append_assoc]
      rcases List.mem_cons.1 member with rfl | later
      · rw [whole, String.append_assoc, String.append_assoc]
        exact ⟨before, _, rfl, length⟩
      · rw [whole]
        exact inductionHypothesis further place later

/-- The piece of a die whose value may be written. -/
def Die.shownPiece (color : Role → Option String) (die : Die) : Piece :=
  .styled (decimal die.value) (die.face.role?.bind color)

theorem Die.piece_eq_ok_iff {die : Die} {piece : Piece} :
    die.piece color = .ok piece ↔ Writable die.value ∧ piece = die.shownPiece color := by
  rw [Die.piece, bind_eq_ok_iff]
  constructor
  · rintro ⟨text, wrote, same⟩
    cases same
    obtain ⟨writable, rfl⟩ := writeInteger_eq_ok_iff.1 wrote
    exact ⟨writable, rfl⟩
  · rintro ⟨writable, rfl⟩
    exact ⟨_, writeInteger_of_writable writable, rfl⟩

theorem Die.eq_of_piece {die : Die} {error : NumberError}
    (failed : die.piece color = .error error) : error = .tooLongToWrite := by
  rcases bind_eq_error_iff.1 failed with wrote | ⟨text, -, same⟩
  · exact eq_of_writeInteger wrote
  · cases same

theorem Die.text_shownPiece (color : Role → Option String) (die : Die) :
    (die.shownPiece color).text = decimal die.value :=
  displayable_of_kept fun _ => isDropped_eq_false_of_mem_decimal

theorem Die.style_shownPiece (color : Role → Option String) (die : Die) :
    (die.shownPiece color).style = die.style? color := by
  have present : (fun name : String => !name.isEmpty) = fun name => decide (name ≠ "") := by
    funext name
    rw [Bool.eq_iff_iff]
    simp
  rw [shownPiece, Piece.styled, style?, present]
  cases die.face <;> rfl

/-- The styled part of a piece at the place of a die is that of the die. -/
theorem Die.span?_shownPiece (color : Role → Option String) (start : Nat) (die : Die) :
    (die.shownPiece color).span? start = Place.span? color ⟨die, start⟩ := by
  rw [Piece.span?, Place.span?, style_shownPiece, text_shownPiece]
  rfl

/-- The dice show their values, with blanks between them. -/
theorem piecesText_dice (color : Role → Option String) (dice : List Die) :
    piecesText ((dice.map (Die.shownPiece color)).intersperse (.plain " ")) =
      " ".intercalate (dice.map fun die => decimal die.value) := by
  induction dice with
  | nil => rfl
  | cons die rest inductionHypothesis =>
    cases rest with
    | nil => simp [Die.text_shownPiece]
    | cons next others =>
      rw [List.map_cons, List.map_cons, List.intersperse_cons_cons, piecesText_cons,
        piecesText_cons, ← List.map_cons, inductionHypothesis, Die.text_shownPiece]
      simp only [List.map_cons, String.intercalate_cons_cons, String.append_assoc]
      rfl

/-- The styled parts of the dice lie at their places. -/
theorem piecesSpans_dice (color : Role → Option String) (start : Nat) (dice : List Die) :
    piecesSpans start ((dice.map (Die.shownPiece color)).intersperse (.plain " ")) =
      (placesFrom start dice).filterMap (Place.span? color) := by
  induction dice generalizing start with
  | nil => rfl
  | cons die rest inductionHypothesis =>
    have first (others : List Place) : (⟨die, start⟩ :: others).filterMap (Place.span? color) =
        ((die.shownPiece color).span? start).toList ++ others.filterMap (Place.span? color) := by
      rw [die.span?_shownPiece, List.filterMap_cons]
      cases Place.span? color ⟨die, start⟩ <;> rfl
    rw [placesFrom, first]
    cases rest with
    | nil =>
      rw [List.map_singleton, List.intersperse_singleton, piecesSpans_cons]
      rfl
    | cons next others =>
      rw [List.map_cons, List.map_cons, List.intersperse_cons_cons, piecesSpans_cons,
        piecesSpans_cons, ← List.map_cons, inductionHypothesis, Die.text_shownPiece]
      rfl

end Places

namespace Line

variable {line : Line} {color : Role → Option String}

/-- What a line looks like with highlights: its text is that of the line without highlights, less
the characters that are not displayed. Each die has its value at its place, and the styled parts are
those at the places of dice that have a colour, one behind the other with something between them. -/
structure Highlighted (color : Role → Option String) (line : Line) (shown : String)
    (pieces : List Piece) : Prop where
  text : piecesText pieces = Text.displayable shown
  dice : line.places.map Place.die = line.dice
  marks : ∀ place ∈ line.places, place.Marks (piecesText pieces)
  spans : piecesSpans 0 pieces = line.places.filterMap (Place.span? color)
  increasing : (piecesSpans 0 pieces).Pairwise fun span later => span.stop < later.start

/-- The fields before the dice. -/
def front (line : Line) : String := line.total ++ fieldGap ++ line.text ++ fieldGap

/-- The pieces behind the dice. -/
def back (line : Line) : List Piece :=
  if line.modifier.isEmpty then [] else [.plain (fieldGap ++ line.modifier)]

theorem pieces_of_writable (writable : ∀ die ∈ line.dice, Writable die.value)
    (color : Role → Option String) : line.pieces color = .ok
      (.plain line.front ::
        ((line.dice.map (Die.shownPiece color)).intersperse (.plain " ") ++ line.back)) := by
  have dice : line.dice.mapM (Die.piece color) = .ok (line.dice.map (Die.shownPiece color)) :=
    mapM_eq_ok_map fun die member => Die.piece_eq_ok_iff.2 ⟨writable die member, rfl⟩
  rw [pieces, dice]
  rfl

theorem piecesText_back (line : Line) : piecesText line.back =
    Text.displayable (if line.modifier.isEmpty then "" else fieldGap ++ line.modifier) := by
  rw [back]
  split
  · rfl
  · rw [piecesText_cons, piecesText_nil, String.append_empty]
    rfl

theorem piecesSpans_back (position : Nat) (line : Line) : piecesSpans position line.back = [] := by
  rw [back]
  split <;> rfl

theorem highlighted_of_writable (writable : ∀ die ∈ line.dice, Writable die.value)
    (color : Role → Option String) :
    ∃ pieces shown, line.pieces color = .ok pieces ∧ line.plain = .ok shown ∧
      Highlighted color line shown pieces := by
  refine ⟨_, _, pieces_of_writable writable color, plain_eq_ok_iff.2 ⟨writable, rfl⟩, ?_⟩
  have spans : piecesSpans 0 (.plain line.front ::
      ((line.dice.map (Die.shownPiece color)).intersperse (.plain " ") ++ line.back)) =
      line.places.filterMap (Place.span? color) := by
    rw [piecesSpans_cons, piecesSpans_append, piecesSpans_dice, piecesSpans_back, List.append_nil,
      Nat.zero_add]
    rfl
  have values : Text.displayable (" ".intercalate (line.dice.map fun die => decimal die.value)) =
      " ".intercalate (line.dice.map fun die => decimal die.value) := by
    have kept := displayable_intercalate_decimal (line.dice.map Die.value)
    rwa [List.map_map] at kept
  constructor
  · rw [piecesText_cons, piecesText_append, piecesText_dice, piecesText_back, displayable_append,
      displayable_append, values, String.append_assoc]
    rfl
  · exact map_die_placesFrom _ _
  · rw [piecesText_cons, piecesText_append, piecesText_dice, ← String.append_assoc]
    exact marks_of_placesFrom rfl
  · exact spans
  · rw [spans]
    refine (placesFrom_increasing _ _).filterMap _ ?_
    intro place later apart span here span' there
    obtain ⟨style, -, rfl⟩ := Option.map_eq_some_iff.1 here
    obtain ⟨style', -, rfl⟩ := Option.map_eq_some_iff.1 there
    exact apart

/-- Lines with and without highlights agree, whatever their fields and the colours. Either a die
cannot be written, and both fail for that reason, or both succeed and the highlights cover exactly
the dice whose face has a colour. -/
theorem highlighted_cases (line : Line) (color : Role → Option String) :
    (∃ pieces shown, line.pieces color = .ok pieces ∧ line.plain = .ok shown ∧
      Highlighted color line shown pieces) ∨
    ((∃ die ∈ line.dice, ¬ Writable die.value) ∧
      line.pieces color = .error .tooLongToWrite ∧ line.plain = .error .tooLongToWrite) := by
  by_cases writable : ∀ die ∈ line.dice, Writable die.value
  · exact .inl (highlighted_of_writable writable color)
  · have stuck : ∃ die ∈ line.dice, ¬ Writable die.value := by simpa using writable
    have written : (line.dice.mapM fun die => writeInteger die.value) = .error .tooLongToWrite :=
      mapM_eq_error (fun _ _ _ => eq_of_writeInteger) fun each => writable fun die member =>
        (each die member).elim fun _ wrote => (writeInteger_eq_ok_iff.1 wrote).1
    have pieced : line.dice.mapM (Die.piece color) = .error .tooLongToWrite :=
      mapM_eq_error (fun _ _ _ => Die.eq_of_piece) fun each => writable fun die member =>
        (each die member).elim fun _ made => (Die.piece_eq_ok_iff.1 made).1
    refine .inr ⟨stuck, ?_, ?_⟩
    · rw [pieces, pieced]
      rfl
    · rw [plain, diceText, written]
      rfl

example : (pieces (fun role => if role = .high then some "green" else some "")
    ⟨" 21", "bell\x07", [⟨1, .lowest⟩, ⟨20, .highest⟩], ""⟩).map
      (fun pieces => (piecesText pieces, piecesSpans 0 pieces)) =
    .ok (" 21  bell  1 20", [⟨13, 15, "green"⟩]) := by decide +kernel

end Line

end DiceTray
