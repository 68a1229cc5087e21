/-!
# Character classes

A property of characters given by the ranges of code points that have it. The tables of the
modules beside this one are values of this type, and membership is one linear test.
-/

namespace DiceTray.Text

/-- The inclusive ranges of code points that belong to a class. -/
abbrev CharClass := List (Nat × Nat)

/-- A character belongs to a class when one of its ranges holds the code point. -/
def CharClass.contains (members : CharClass) (c : Char) : Bool :=
  members.any fun range => range.1 ≤ c.toNat && c.toNat ≤ range.2

theorem CharClass.contains_iff {members : CharClass} {c : Char} :
    members.contains c = true ↔ ∃ range ∈ members, range.1 ≤ c.toNat ∧ c.toNat ≤ range.2 := by
  simp [contains]

end DiceTray.Text
