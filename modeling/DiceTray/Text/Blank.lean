import DiceTray.Text.CharClass

/-!
# White space

White space is the Unicode property together with the four information separators. It is not
significant inside an expression, and it is trimmed from names and texts.
-/

namespace DiceTray.Text

/-- The code points of white space. -/
def blankClass : CharClass :=
  [(0x9, 0xD), (0x1C, 0x20), (0x85, 0x85), (0xA0, 0xA0), (0x1680, 0x1680), (0x2000, 0x200A),
   (0x2028, 0x2029), (0x202F, 0x202F), (0x205F, 0x205F), (0x3000, 0x3000)]

/-- White space characters; the zero width space and the byte order mark are none. -/
def isBlank (c : Char) : Bool :=
  blankClass.contains c

/-- A list of characters without the white space at either end. -/
def trimChars (cs : List Char) : List Char :=
  ((cs.dropWhile isBlank).reverse.dropWhile isBlank).reverse

/-- A text without the white space at either end. -/
def trim (text : String) : String :=
  String.ofList (trimChars text.toList)

end DiceTray.Text
