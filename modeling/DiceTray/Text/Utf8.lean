/-!
# UTF-8

Decoding bytes as UTF-8, with the place and the reason of the first fault.
-/

namespace DiceTray.Text

/-- Why a byte sequence is not UTF-8. -/
inductive EncodingReason
  | invalidStart
  | invalidContinuation
  | unexpectedEnd
deriving DecidableEq, Repr

/-- The wording of a reason. -/
def EncodingReason.message : EncodingReason → String
  | .invalidStart => "invalid start byte"
  | .invalidContinuation => "invalid continuation byte"
  | .unexpectedEnd => "unexpected end of data"

/-- The first fault of a byte sequence. -/
structure EncodingError where
  /-- The first byte of the faulty sequence. -/
  byte : Nat
  position : Nat
  /-- How many bytes the fault spans. -/
  length : Nat
  reason : EncodingReason
deriving DecidableEq, Repr

/-- The wording of a fault. -/
def EncodingError.message (error : EncodingError) : String :=
  "'utf-8' codec can't decode " ++
    (if error.length = 1 then
      "byte 0x" ++ String.ofList (Nat.toDigits 16 error.byte) ++ " in position " ++
        toString error.position
    else
      "bytes in position " ++ toString error.position ++ "-" ++
        toString (error.position + error.length - 1)) ++
    ": " ++ error.reason.message

/-- How many bytes follow a first byte, if it can begin a character. -/
def continuationCount? (lead : Nat) : Option Nat :=
  if lead < 0x80 then some 0
  else if lead < 0xC2 then none
  else if lead < 0xE0 then some 1
  else if lead < 0xF0 then some 2
  else if lead < 0xF5 then some 3
  else none

/-- A byte may stand at an index after a first byte: overlong forms, surrogates and code points
beyond the last are excluded by the second byte. -/
def mayContinue (lead index byte : Nat) : Bool :=
  0x80 ≤ byte && byte < 0xC0 &&
    (index != 1 ||
      !((lead = 0xE0 && byte < 0xA0) || (lead = 0xED && 0xA0 ≤ byte) ||
        (lead = 0xF0 && byte < 0x90) || (lead = 0xF4 && 0x90 ≤ byte)))

/-- The fault among the bytes that follow a first byte, `missing` of which are still needed, with
the number of bytes before it. -/
def continuationFault? (lead index : Nat) : Nat → List UInt8 → Option (EncodingReason × Nat)
  | 0, _ => none
  | _ + 1, [] => some (.unexpectedEnd, index)
  | missing + 1, byte :: rest =>
    if mayContinue lead index byte.toNat then continuationFault? lead (index + 1) missing rest
    else some (.invalidContinuation, index)

/-- The first fault of bytes that start at a position; `skip` of them belong to the character
before. -/
def encodingFault? (position skip : Nat) : List UInt8 → Option EncodingError
  | [] => none
  | byte :: rest =>
    match skip with
    | skip + 1 => encodingFault? (position + 1) skip rest
    | 0 =>
      match continuationCount? byte.toNat with
      | none => some ⟨byte.toNat, position, 1, .invalidStart⟩
      | some count =>
        match continuationFault? byte.toNat 1 count rest with
        | some (reason, length) => some ⟨byte.toNat, position, length, reason⟩
        | none => encodingFault? (position + 1) count rest

/-- The text that bytes encode. -/
def decodeUtf8 (bytes : ByteArray) : Except EncodingError String :=
  match String.fromUTF8? bytes with
  | some text => .ok text
  | none =>
    .error ((encodingFault? 0 0 bytes.toList).getD ⟨0, bytes.size, 1, .unexpectedEnd⟩)

/-- Every text is read back from the bytes that encode it. -/
theorem decodeUtf8_toUTF8 (text : String) : decodeUtf8 text.toUTF8 = .ok text := by
  have whole : String.fromUTF8? text.toUTF8 = some text := dif_pos text.isValidUTF8
  rw [decodeUtf8, whole]

/-- The three ways to end a line become one. -/
def unifyLines : List Char → List Char
  | [] => []
  | [c] => [if c = '\r' then '\n' else c]
  | c :: next :: rest =>
    if c = '\r' then
      if next = '\n' then '\n' :: unifyLines rest else '\n' :: unifyLines (next :: rest)
    else c :: unifyLines (next :: rest)

end DiceTray.Text
