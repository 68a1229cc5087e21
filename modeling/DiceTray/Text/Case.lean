import DiceTray.Text.Case.Table

/-!
# Case mapping

Full lower-case and upper-case mappings of texts. Lower-casing looks at the neighbours of a
capital sigma, which becomes the final form at the end of a word; upper-casing may turn one
character into several.
-/

namespace DiceTray.Text

/-- The image of a code point under the first row that holds it, else the code point itself. -/
def mapCase (rows : List CaseRow) (c : Char) : Char :=
  match rows.findSome? (·.image? c.toNat) with
  | some image => Char.ofNat image
  | none => c

/-- The lower-case form of a character that stands alone. The dotted capital I keeps its dot as
a combining mark. -/
def lowerChar (c : Char) : List Char :=
  if c = '\u0130' then ['i', '\u0307'] else [mapCase lowerRows c]

/-- The nearest character that is not case-ignorable has case. -/
def casedNext (cs : List Char) : Bool :=
  match cs.dropWhile caseIgnorableClass.contains with
  | [] => false
  | c :: _ => casedClass.contains c

/-- A capital sigma ends a word when a letter with case precedes it and none follows, case-ignorable
characters passed over; `before` holds the preceding characters, nearest first. -/
def endsWord (before after : List Char) : Bool :=
  casedNext before && !casedNext after

/-- The lower-case form of what follows the characters `before`, nearest first. -/
def lowercaseAfter (before : List Char) : List Char → List Char
  | [] => []
  | c :: rest =>
    let image :=
      if c = '\u03A3' then [if endsWord before rest then '\u03C2' else '\u03C3']
      else lowerChar c
    image ++ lowercaseAfter (c :: before) rest

/-- The lower-case form of a list of characters. -/
def lowercaseChars (cs : List Char) : List Char :=
  lowercaseAfter [] cs

/-- The lower-case form of a text. -/
def lowercase (text : String) : String :=
  String.ofList (lowercaseChars text.toList)

/-- The upper-case form of a character. -/
def upperChar (c : Char) : List Char :=
  match upperExpansions.lookup c.toNat with
  | some codes => codes.map Char.ofNat
  | none => [mapCase upperRows c]

/-- The upper-case form of a text. -/
def uppercase (text : String) : String :=
  String.ofList (text.toList.flatMap upperChar)

@[simp] theorem lowercaseAfter_nil (before : List Char) : lowercaseAfter before [] = [] := rfl

end DiceTray.Text
