import DiceTray.Text.Blank
import DiceTray.Text.Case
import Mathlib.Data.List.Forall2
import Mathlib.Tactic.IntervalCases

/-!
# Lower-cased texts

What the lower-case form of a text is made of, and which characters it does not tell apart. The
images of the rows of the table lie in no row, so a character that comes out of lower-casing is
mapped no further. The two forms of an ASCII letter have one image, and as neighbours of a sigma
they count alike, so a text may be respelled with the other form of any of its letters.
-/

namespace DiceTray.Text

/-! ## Images lie in no row -/

theorem toNat_ofNat_of_isValidChar {code : Nat} (valid : code.isValidChar) :
    (Char.ofNat code).toNat = code := by
  rw [Char.ofNat, dif_pos valid]
  rfl

namespace CaseRow

theorem image?_eq_some_iff {row : CaseRow} {code image : Nat} :
    row.image? code = some image ↔
      row.first ≤ code ∧ code ≤ row.last ∧ (code - row.first) % row.step = 0 ∧
        image = (code + row.shift).toNat := by
  rw [image?]
  split
  · next inside => simp [inside, eq_comm]
  · next outside =>
    constructor
    · exact nofun
    · exact fun ⟨first, last, step, _⟩ => absurd ⟨first, last, step⟩ outside

/-- The images of a row lie before a range of code points or behind it. -/
def misses (row : CaseRow) (range : Nat × Nat) : Bool :=
  (row.last + row.shift).toNat.blt range.1 || range.2.blt (row.first + row.shift).toNat

theorem misses_iff {row : CaseRow} {range : Nat × Nat} :
    row.misses range = true ↔
      (row.last + row.shift).toNat < range.1 ∨ range.2 < (row.first + row.shift).toNat := by
  rw [misses, Bool.or_eq_true, Nat.blt_eq, Nat.blt_eq]

/-- No image of a row lies in another row: they miss its range, or they stand between its code
points, every other one of which is left out. -/
def avoids (row other : CaseRow) : Bool :=
  row.misses (other.first, other.last) ||
    (row.first == row.last || row.step == 2) && other.step == 2 &&
      (row.first + row.shift - other.first) % 2 == 1

/-- An image is the code point moved by the shift, where that lies above zero. -/
theorem image_bounds {row : CaseRow} {code image : Nat} (above : 0 < row.first + row.shift)
    (found : row.image? code = some image) :
    row.first + row.shift ≤ image ∧ image ≤ row.last + row.shift := by
  obtain ⟨first, last, -, rfl⟩ := image?_eq_some_iff.1 found
  omega

theorem image?_eq_none_of_avoids {row other : CaseRow} {code image : Nat}
    (avoids : row.avoids other = true) (above : 0 < row.first + row.shift)
    (found : row.image? code = some image) : other.image? image = none := by
  refine Option.eq_none_iff_forall_ne_some.2 fun _ again => ?_
  have bounds := image_bounds above found
  obtain ⟨first, last, step, moved⟩ := image?_eq_some_iff.1 found
  obtain ⟨first', last', step', -⟩ := image?_eq_some_iff.1 again
  simp only [CaseRow.avoids, Bool.or_eq_true, Bool.and_eq_true, beq_iff_eq, misses_iff] at avoids
  rcases avoids with (before | behind) | ⟨⟨alternate, even⟩, odd⟩
  · omega
  · omega
  · rw [even] at step'
    rcases alternate with single | two
    · omega
    · rw [two] at step
      omega

end CaseRow

/-- The code points that are the image of no character: the two capital letters with rules of their
own, the surrogates, and white space. -/
def unreachedClass : CharClass :=
  [(0x130, 0x130), (0x3A3, 0x3A3), (0xD800, 0xDFFF)] ++ blankClass

theorem lowerRows_bounds :
    ∀ row ∈ lowerRows, 0 < row.first + row.shift ∧ row.last + row.shift < 0x110000 := by
  decide +kernel

theorem lowerRows_miss : ∀ row ∈ lowerRows, ∀ range ∈ unreachedClass, row.misses range = true := by
  decide +kernel

theorem lowerRows_avoid :
    ∀ row ∈ lowerRows, ∀ other ∈ lowerRows, row.avoids other = true := by
  -- as one Boolean, for there are many pairs of rows
  have checked : (lowerRows.all fun row => lowerRows.all row.avoids) = true := by decide +kernel
  exact fun row member => List.all_eq_true.1 (List.all_eq_true.1 checked row member)

section Images

variable {row : CaseRow} {code image : Nat}

/-- No image lies in the class. -/
theorem not_unreached_of_image (member : row ∈ lowerRows) (found : row.image? code = some image) :
    ∀ range ∈ unreachedClass, ¬ (range.1 ≤ image ∧ image ≤ range.2) := by
  intro range unreached
  have bounds := CaseRow.image_bounds (lowerRows_bounds row member).1 found
  rcases CaseRow.misses_iff.1 (lowerRows_miss row member range unreached) with before | behind <;>
    omega

/-- Images are code points of characters. -/
theorem toNat_ofNat_image (member : row ∈ lowerRows) (found : row.image? code = some image) :
    (Char.ofNat image).toNat = image := by
  obtain ⟨above, below⟩ := lowerRows_bounds row member
  have bounds := CaseRow.image_bounds above found
  have surrogate := not_unreached_of_image member found (0xD800, 0xDFFF) (by decide)
  apply toNat_ofNat_of_isValidChar
  rw [Nat.isValidChar]
  omega

theorem contains_image_eq_false (member : row ∈ lowerRows) (found : row.image? code = some image) :
    unreachedClass.contains (Char.ofNat image) = false := by
  refine Bool.eq_false_iff.2 fun inside => ?_
  obtain ⟨range, unreached, within⟩ := CharClass.contains_iff.1 inside
  rw [toNat_ofNat_image member found] at within
  exact not_unreached_of_image member found range unreached within

/-- What is neither in a row nor the dotted capital is its own lower-case form. -/
theorem lowerChar_eq_self {c : Char} (undotted : c ≠ '\u0130')
    (outside : lowerRows.findSome? (·.image? c.toNat) = none) : lowerChar c = [c] := by
  rw [lowerChar, if_neg undotted, mapCase, outside]

/-- Images are mapped no further. -/
theorem lowerChar_image (member : row ∈ lowerRows) (found : row.image? code = some image) :
    lowerChar (Char.ofNat image) = [Char.ofNat image] := by
  apply lowerChar_eq_self
  · intro dotted
    have apart := contains_image_eq_false member found
    rw [dotted] at apart
    exact absurd apart (by decide)
  · rw [toNat_ofNat_image member found, List.findSome?_eq_none_iff]
    intro other there
    exact CaseRow.image?_eq_none_of_avoids (lowerRows_avoid row member other there)
      (lowerRows_bounds row member).1 found

end Images

/-- A character outside of the rows is mapped to itself, and any other to an image. -/
theorem mapCase_cases (c : Char) :
    lowerRows.findSome? (·.image? c.toNat) = none ∧ mapCase lowerRows c = c ∨
      ∃ row ∈ lowerRows, ∃ image, row.image? c.toNat = some image ∧
        mapCase lowerRows c = Char.ofNat image := by
  rw [mapCase]
  cases found : lowerRows.findSome? (·.image? c.toNat) with
  | none => exact .inl ⟨rfl, rfl⟩
  | some image =>
    obtain ⟨row, member, here⟩ := List.exists_of_findSome?_eq_some found
    exact .inr ⟨row, member, image, here, rfl⟩

/-- The lower-case form of a character other than the sigma is mapped no further, and it is no
white space unless the character was. -/
theorem settled_of_mem_lowerChar {c d : Char} (other : c ≠ '\u03A3') (solid : isBlank c = false)
    (member : d ∈ lowerChar c) : isBlank d = false ∧ d ≠ '\u03A3' ∧ lowerChar d = [d] := by
  rw [lowerChar] at member
  split at member
  · rcases List.mem_cons.1 member with rfl | dot
    · decide
    · obtain rfl := List.mem_singleton.1 dot
      decide
  · next undotted =>
    obtain rfl := List.mem_singleton.1 member
    rcases mapCase_cases c with ⟨outside, same⟩ | ⟨row, present, image, found, mapped⟩
    · rw [same]
      exact ⟨solid, other, lowerChar_eq_self undotted outside⟩
    · rw [mapped]
      have apart := contains_image_eq_false present found
      rw [unreachedClass, CharClass.contains, List.any_append, Bool.or_eq_false_iff] at apart
      refine ⟨apart.2, fun sigma => ?_, lowerChar_image present found⟩
      rw [sigma] at apart
      exact absurd apart.1 (by decide)

/-! ## The two forms of ASCII letters -/

/-- Two characters that lower-casing does not tell apart, neither by their own forms nor as
neighbours of a sigma. -/
structure CaseTwins (c d : Char) : Prop where
  lower : lowerChar c = lowerChar d
  sigma : c = '\u03A3' ↔ d = '\u03A3'
  cased : casedClass.contains c = casedClass.contains d
  ignorable : caseIgnorableClass.contains c = caseIgnorableClass.contains d
  blank : isBlank c = isBlank d

namespace CaseTwins

theorem refl (c : Char) : CaseTwins c c := ⟨rfl, .rfl, rfl, rfl, rfl⟩

theorem symm {c d : Char} (twins : CaseTwins c d) : CaseTwins d c :=
  ⟨twins.lower.symm, twins.sigma.symm, twins.cased.symm, twins.ignorable.symm, twins.blank.symm⟩

theorem trans {b c d : Char} (first : CaseTwins b c) (second : CaseTwins c d) : CaseTwins b d :=
  ⟨first.lower.trans second.lower, first.sigma.trans second.sigma, first.cased.trans second.cased,
    first.ignorable.trans second.ignorable, first.blank.trans second.blank⟩

/-- The two forms of an ASCII letter are twins, and every other character is its own form. -/
theorem toLower (c : Char) : CaseTwins c.toLower c := by
  by_cases upper : c.val ≥ 'A'.val ∧ c.val ≤ 'Z'.val
  · have capital : ∀ code, 65 ≤ code → code ≤ 90 →
        CaseTwins (Char.ofNat code).toLower (Char.ofNat code) := by
      intro code least most
      constructor <;> interval_cases code <;> decide +kernel
    rw [ge_iff_le, UInt32.le_iff_toNat_le, UInt32.le_iff_toNat_le] at upper
    have twins := capital c.toNat upper.1 upper.2
    rwa [Char.ofNat_toNat] at twins
  · have same : c.toLower = c := dif_neg upper
    rw [same]
    exact .refl c

/-- Characters that differ in the form of an ASCII letter at most are twins. -/
theorem of_toLower_eq {c d : Char} (same : c.toLower = d.toLower) : CaseTwins c d :=
  (toLower c).symm.trans (same ▸ toLower d)

end CaseTwins

section Twins

variable {before before' cs ds : List Char}

theorem casedNext_cons (c : Char) (cs : List Char) :
    casedNext (c :: cs) =
      if caseIgnorableClass.contains c then casedNext cs else casedClass.contains c := by
  by_cases ignorable : caseIgnorableClass.contains c = true
  · rw [if_pos ignorable, casedNext, List.dropWhile_cons_of_pos ignorable]
    rfl
  · rw [if_neg ignorable, casedNext, List.dropWhile_cons_of_neg ignorable]

theorem casedNext_congr (twins : List.Forall₂ CaseTwins cs ds) : casedNext cs = casedNext ds := by
  induction twins with
  | nil => rfl
  | cons here _ inductionHypothesis =>
    rw [casedNext_cons, casedNext_cons, here.ignorable, here.cased, inductionHypothesis]

/-- Texts of twins have one lower-case form. -/
theorem lowercaseAfter_congr (earlier : List.Forall₂ CaseTwins before before')
    (twins : List.Forall₂ CaseTwins cs ds) :
    lowercaseAfter before cs = lowercaseAfter before' ds := by
  induction twins generalizing before before' with
  | nil => rfl
  | @cons c d cs ds here later inductionHypothesis =>
    have rest := inductionHypothesis (.cons here earlier)
    rw [lowercaseAfter, lowercaseAfter, rest, endsWord, endsWord, casedNext_congr earlier,
      casedNext_congr later, here.lower]
    simp only [here.sigma]

end Twins

end DiceTray.Text
