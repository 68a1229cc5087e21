import DiceTray.Text.Printable

/-!
# Quoted text

How a text is shown inside a message: between quotes, with whatever is not printable escaped.
Apostrophes delimit it unless it holds an apostrophe and no quotation mark.
-/

namespace DiceTray.Text

/-- The mark that delimits a quoted text. -/
def quoteMark (cs : List Char) : Char :=
  if '\'' ∈ cs ∧ '"' ∉ cs then '"' else '\''

/-- A number in hexadecimal, filled with zeros up to a width. -/
def hexadecimal (width value : Nat) : List Char :=
  let digits := Nat.toDigits 16 value
  List.replicate (width - digits.length) '0' ++ digits

/-- The escape of a character by its code point, as short as the code point allows. -/
def escapeCode (code : Nat) : List Char :=
  if code < 0x100 then '\\' :: 'x' :: hexadecimal 2 code
  else if code < 0x10000 then '\\' :: 'u' :: hexadecimal 4 code
  else '\\' :: 'U' :: hexadecimal 8 code

/-- What a character is shown as between two marks. -/
def quotedChar (mark c : Char) : List Char :=
  if c = mark ∨ c = '\\' then ['\\', c]
  else if c = '\n' then ['\\', 'n']
  else if c = '\r' then ['\\', 'r']
  else if c = '\t' then ['\\', 't']
  else if isPrintable c then [c]
  else escapeCode c.toNat

/-- The quoted form of a list of characters. -/
def quotedChars (cs : List Char) : List Char :=
  quoteMark cs :: (cs.flatMap (quotedChar (quoteMark cs)) ++ [quoteMark cs])

/-- The quoted form of a text. -/
def quoted (text : String) : String :=
  String.ofList (quotedChars text.toList)

end DiceTray.Text
