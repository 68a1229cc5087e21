import DiceTray.Line

/-!
# Highlighted lines

A line as pieces of text of which some have a style. The dice that show their highest side and those
that show a one are styled, in the colours chosen for the two roles. How a terminal marks a style
is left to it.
-/

namespace DiceTray

/-- What a colour is used for. -/
inductive Role
  /-- Dice that show their highest side. -/
  | high
  /-- Dice that show a one. -/
  | low
deriving DecidableEq, Repr

/-- The name of a role. -/
def Role.name : Role → String
  | .high => "high"
  | .low => "low"

/-- The role with a name. -/
def Role.ofName? (name : String) : Option Role :=
  if name = "high" then some .high else if name = "low" then some .low else none

/-- The role whose colour a face gets. -/
def Face.role? : Face → Option Role
  | .highest => some .high
  | .lowest => some .low
  | .ordinary => none

/-- A piece of text, with the style it is shown in. -/
structure Piece where
  /-- The text, without control characters. -/
  text : String
  style : Option String
deriving DecidableEq, Repr

/-- A piece without style. -/
def Piece.plain (text : String) : Piece :=
  ⟨Text.displayable text, none⟩

/-- A piece with a style, unless that is missing or empty. -/
def Piece.styled (text : String) (style : Option String) : Piece :=
  ⟨Text.displayable text, style.filter fun name => !name.isEmpty⟩

/-- A part of a text that has a style, given by its first character and the one behind its last. -/
structure Span where
  start : Nat
  /-- The position behind the last character. -/
  stop : Nat
  style : String
deriving DecidableEq, Repr

/-- The text of pieces. -/
def piecesText (pieces : List Piece) : String :=
  String.join (pieces.map Piece.text)

/-- The styled parts of pieces that begin at a position. -/
def piecesSpans (position : Nat) : List Piece → List Span
  | [] => []
  | piece :: rest =>
    let stop := position + piece.text.length
    match piece.style with
    | some style => ⟨position, stop, style⟩ :: piecesSpans stop rest
    | none => piecesSpans stop rest

/-- The piece of a die. -/
def Die.piece (color : Role → Option String) (die : Die) : Except NumberError Piece := do
  return .styled (← writeInteger die.value) (die.face.role?.bind color)

/-- The pieces of a line, highlighted in the colours of the roles. -/
def Line.pieces (color : Role → Option String) (line : Line) :
    Except NumberError (List Piece) := do
  let dice ← line.dice.mapM (Die.piece color)
  return .plain (line.total ++ fieldGap ++ line.text ++ fieldGap) ::
    (dice.intersperse (.plain " ") ++
      if line.modifier.isEmpty then [] else [.plain (fieldGap ++ line.modifier)])

end DiceTray
