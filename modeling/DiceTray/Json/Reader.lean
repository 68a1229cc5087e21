import DiceTray.Json.Value

/-!
# Reading JSON

A reader for JSON documents that says where and why it stops. Beyond the standard it accepts the
three constants for numbers that are not finite; of members with one name the last counts, in the
place of the first. Arrays and objects may be nested to any depth.
-/

namespace DiceTray.Json

/-- Why a text is no JSON document. -/
inductive Reason
  | expectingValue
  | expectingName
  | expectingColon
  /-- Neither a comma nor the end of the array or object follows. -/
  | expectingComma
  | extraData
  | unterminatedString
  | controlCharacter
  /-- A backslash is followed by a character that it does not escape. -/
  | badEscape
  /-- The four hexadecimal digits of an escape are missing. -/
  | badCodeUnit
  | byteOrderMark
deriving DecidableEq

/-- The wording of a reason. -/
def Reason.message : Reason → String
  | .expectingValue => "Expecting value"
  | .expectingName => "Expecting property name enclosed in double quotes"
  | .expectingColon => "Expecting ':' delimiter"
  | .expectingComma => "Expecting ',' delimiter"
  | .extraData => "Extra data"
  | .unterminatedString => "Unterminated string starting at"
  | .controlCharacter => "Invalid control character at"
  | .badEscape => "Invalid \\escape"
  | .badCodeUnit => "Invalid \\uXXXX escape"
  | .byteOrderMark => "Unexpected UTF-8 BOM (decode using utf-8-sig)"

/-- What stops the reader: a reason with the text that was left there, or a number that could not be
read. -/
inductive Halt
  /-- The text is no document, which shows where `rest` begins. -/
  | refused (reason : Reason) (rest : List Char)
  | number (error : NumberError)

/-- White space between the tokens of a document. -/
def isSpace (c : Char) : Bool :=
  c = ' ' || c = '\t' || c = '\n' || c = '\r'

/-- The text after the white space at its start. -/
def skipSpace (cs : List Char) : List Char :=
  cs.dropWhile isSpace

/-- A piece of a string: a character, or a code unit given by an escape. -/
inductive Piece
  /-- A character that stands for itself or has a short escape. -/
  | char (c : Char)
  /-- A code unit of sixteen bits. -/
  | unit (code : Nat)

/-- The value of a hexadecimal digit. -/
def hexValue? (c : Char) : Option Nat :=
  if '0' ≤ c ∧ c ≤ '9' then some (c.toNat - '0'.toNat)
  else if 'a' ≤ c ∧ c ≤ 'f' then some (c.toNat - 'a'.toNat + 10)
  else if 'A' ≤ c ∧ c ≤ 'F' then some (c.toNat - 'A'.toNat + 10)
  else none

/-- The code unit of four hexadecimal digits. -/
def codeUnit? (a b c d : Char) : Option Nat := do
  let high ← hexValue? a
  let upper ← hexValue? b
  let lower ← hexValue? c
  let low ← hexValue? d
  return ((high * 16 + upper) * 16 + lower) * 16 + low

/-- The character of a short escape. -/
def shortEscape? (c : Char) : Option Char :=
  if c = '"' ∨ c = '\\' ∨ c = '/' then some c
  else if c = 'b' then some '\x08'
  else if c = 'f' then some '\x0c'
  else if c = 'n' then some '\n'
  else if c = 'r' then some '\r'
  else if c = 't' then some '\t'
  else none

/-- The pieces of a string up to its closing mark, put before those already read, newest first;
`opening` is the text from the opening mark on. -/
def scanPieces (opening : List Char) (read : List Piece) :
    List Char → Except Halt (List Piece × List Char)
  | [] => .error (.refused .unterminatedString opening)
  | c :: rest =>
    if c = '"' then .ok (read.reverse, rest)
    else if c = '\\' then
      match rest with
      | [] => .error (.refused .unterminatedString opening)
      | e :: rest =>
        if e = 'u' then
          match rest with
          | h₁ :: h₂ :: h₃ :: h₄ :: after =>
            match codeUnit? h₁ h₂ h₃ h₄ with
            | some code =>
              if after.isEmpty then .error (.refused .badCodeUnit (e :: rest))
              else scanPieces opening (.unit code :: read) after
            | none => .error (.refused .badCodeUnit (e :: rest))
          | _ => .error (.refused .badCodeUnit (e :: rest))
        else
          match shortEscape? e with
          | some image => scanPieces opening (.char image :: read) rest
          | none => .error (.refused .badEscape (c :: e :: rest))
    else if c.toNat < 0x20 then .error (.refused .controlCharacter (c :: rest))
    else scanPieces opening (.char c :: read) rest

/-- The text of pieces. Two code units that form a surrogate pair are one character; a surrogate
without partner has none and becomes the replacement character. -/
def joinPieces : List Piece → List Char
  | [] => []
  | .char c :: rest => c :: joinPieces rest
  | [.unit code] => [if code.isValidChar then Char.ofNat code else '\uFFFD']
  | .unit code :: .char c :: rest =>
    (if code.isValidChar then Char.ofNat code else '\uFFFD') :: c :: joinPieces rest
  | .unit high :: .unit low :: rest =>
    if 0xD800 ≤ high ∧ high < 0xDC00 ∧ 0xDC00 ≤ low ∧ low < 0xE000 then
      Char.ofNat (0x10000 + (high - 0xD800) * 0x400 + (low - 0xDC00)) :: joinPieces rest
    else
      (if high.isValidChar then Char.ofNat high else '\uFFFD') :: joinPieces (.unit low :: rest)

/-- Reads a string whose opening mark is the head of `opening`, followed by `cs`. -/
def readString (opening cs : List Char) : Except Halt (String × List Char) := do
  let (pieces, rest) ← scanPieces opening [] cs
  return (String.ofList (joinPieces pieces), rest)

/-- The digits of an integer part, which does not start with a superfluous zero. -/
def splitWhole : List Char → List Char × List Char
  | '0' :: rest => (['0'], rest)
  | cs => cs.span Char.isDigit

/-- The digits after a point, if a point with a digit follows. -/
def splitFraction : List Char → List Char × List Char
  | '.' :: rest =>
    if (rest.takeWhile Char.isDigit).isEmpty then ([], '.' :: rest) else rest.span Char.isDigit
  | cs => ([], cs)

/-- The sign and digits of an exponent, if a complete one follows. -/
def splitExponent (cs : List Char) : Option (Bool × List Char × List Char) :=
  match cs with
  | e :: rest =>
    if e = 'e' ∨ e = 'E' then
      let (negative, body) := splitSign rest
      let (digits, after) := body.span Char.isDigit
      if digits.isEmpty then none else some (negative, digits, after)
    else none
  | [] => none

/-- The natural number of a run of ASCII digits. -/
def digitsValue (digits : List Char) : Nat :=
  Nat.ofDigitChars 10 digits 0

/-- Reads a number without its sign; `whole` holds the digits of its integer part. -/
def readNumber (negative : Bool) (whole rest : List Char) : Except Halt (Value × List Char) :=
  let (fraction, afterFraction) := splitFraction rest
  match splitExponent afterFraction with
  | some (negativeExponent, digits, after) =>
    let exponent := Binary64.signed negativeExponent (digitsValue digits)
    .ok (.float (Binary64.ofDecimal negative (digitsValue (whole ++ fraction))
      (exponent - fraction.length)), after)
  | none =>
    if fraction.isEmpty then
      if digitLimit < whole.length then .error (.number (.tooManyDigits whole.length))
      else .ok (.integer (Binary64.signed negative (digitsValue whole)), rest)
    else
      .ok (.float (Binary64.ofDecimal negative (digitsValue (whole ++ fraction))
        (-(fraction.length : Int))), afterFraction)

/-- The words that stand for values. -/
def constants : List (List Char × Value) :=
  [("null".toList, .null), ("true".toList, .boolean true), ("false".toList, .boolean false),
    ("NaN".toList, .float Binary64.notANumber),
    ("Infinity".toList, .float (Binary64.ofCode false Binary64.infinityCode)),
    ("-Infinity".toList, .float (Binary64.ofCode true Binary64.infinityCode))]

/-- Reads a constant or a number. -/
def readAtom (cs : List Char) : Except Halt (Value × List Char) :=
  match constants.find? fun constant => constant.1.isPrefixOf cs with
  | some (word, value) => .ok (value, cs.drop word.length)
  | none =>
    let (negative, body) := match cs with
      | '-' :: rest => (true, rest)
      | _ => (false, cs)
    let (whole, rest) := splitWhole body
    if whole.isEmpty then .error (.refused .expectingValue cs) else readNumber negative whole rest

mutual

/-- Reads a value; the first argument bounds the depth and length of what can be read. -/
def readValue : Nat → List Char → Except Halt (Value × List Char)
  | 0, cs => .error (.refused .expectingValue cs)
  | bound + 1, cs =>
    match cs with
    | '"' :: rest => do
      let (text, rest) ← readString cs rest
      return (.text text, rest)
    | '[' :: rest => do
      match skipSpace rest with
      | ']' :: after => return (.list [], after)
      | body =>
        let (items, after) ← readItems bound body
        return (.list items, after)
    | '{' :: rest => do
      match skipSpace rest with
      | '}' :: after => return (.object [], after)
      | body =>
        let (members, after) ← readMembers bound body
        return (.object (OrderedMap.ofList members).entries, after)
    | _ => readAtom cs

/-- Reads the items of an array up to its end; at least one follows. -/
def readItems : Nat → List Char → Except Halt (List Value × List Char)
  | 0, cs => .error (.refused .expectingValue cs)
  | bound + 1, cs => do
    let (item, rest) ← readValue bound cs
    match skipSpace rest with
    | ']' :: after => return ([item], after)
    | ',' :: after =>
      let (items, after) ← readItems bound (skipSpace after)
      return (item :: items, after)
    | rest => .error (.refused .expectingComma rest)

/-- Reads the members of an object up to its end; at least one follows. -/
def readMembers : Nat → List Char → Except Halt (List (String × Value) × List Char)
  | 0, cs => .error (.refused .expectingName cs)
  | bound + 1, cs =>
    match cs with
    | '"' :: rest => do
      let (name, rest) ← readString cs rest
      match skipSpace rest with
      | ':' :: rest =>
        let (value, rest) ← readValue bound (skipSpace rest)
        match skipSpace rest with
        | '}' :: after => return ([(name, value)], after)
        | ',' :: after =>
          let (members, after) ← readMembers bound (skipSpace after)
          return ((name, value) :: members, after)
        | rest => .error (.refused .expectingComma rest)
      | rest => .error (.refused .expectingColon rest)
    | _ => .error (.refused .expectingName cs)

end

/-- Reads a whole document. -/
def readDocument (cs : List Char) : Except Halt Value :=
  match cs with
  | '\uFEFF' :: _ => .error (.refused .byteOrderMark cs)
  | _ => do
    let (value, rest) ← readValue (cs.length + 1) (skipSpace cs)
    match skipSpace rest with
    | [] => return value
    | rest => .error (.refused .extraData rest)

/-- Where and why a text is no JSON document, or which of its numbers cannot be read. -/
inductive ReadError
  | malformed (reason : Reason) (line column position : Nat)
  | number (error : NumberError)
deriving DecidableEq

/-- The place of a reason, given the text and what was left of it. Lines and columns count from one,
positions from zero. -/
def locate (reason : Reason) (cs rest : List Char) : ReadError :=
  let seen := cs.take (cs.length - rest.length)
  .malformed reason (seen.count '\n' + 1) ((seen.reverse.takeWhile (· ≠ '\n')).length + 1)
    seen.length

/-- Reads a JSON document. -/
def read (text : String) : Except ReadError Value :=
  match readDocument text.toList with
  | .ok value => .ok value
  | .error (.refused reason rest) => .error (locate reason text.toList rest)
  | .error (.number error) => .error (.number error)

/-- The wording of a read error. -/
def ReadError.message : ReadError → String
  | .malformed reason line column position =>
    reason.message ++ ": line " ++ toString line ++ " column " ++ toString column ++
      " (char " ++ toString position ++ ")"
  | .number error => error.message

end DiceTray.Json
