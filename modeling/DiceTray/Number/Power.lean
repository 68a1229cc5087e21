/-!
# Powers

The powers of the two bases that numbers are written and encoded in.
-/

namespace DiceTray

/-- A power of two. -/
def twoTo (exponent : Nat) : Nat := Nat.pow 2 exponent

/-- A power of ten. -/
def tenTo (exponent : Nat) : Nat := Nat.pow 10 exponent

end DiceTray
