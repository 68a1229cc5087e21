import DiceTray.Number.Decimal

/-!
# Numerals

Writing a number in decimal and reading the digits again gives the number, and a run of digits
writes no number beyond its length. Together they say which numbers have a numeral within the limit.
-/

namespace DiceTray

open Text

theorem bounds_of_isDigit {c : Char} (digit : c.isDigit = true) : 48 ≤ c.toNat ∧ c.toNat < 58 := by
  simp only [Char.isDigit, Bool.and_eq_true, decide_eq_true_eq, UInt32.le_iff_toNat_le] at digit
  exact ⟨digit.1, Nat.lt_succ_of_le digit.2⟩

/-- The digits of ASCII have the values that their code points tell. -/
theorem digitValue?_of_isDigit {c : Char} (digit : c.isDigit = true) :
    digitValue? c = some (c.toNat - 48) := by
  have bounds := bounds_of_isDigit digit
  have zero : digitZero? c.toNat = some 48 := by
    rw [digitZero?, digitZeros, List.find?_cons_of_pos (by simpa using bounds)]
  rw [digitValue?, zero]
  rfl

theorem isDigit_of_isDigit {c : Char} (digit : c.isDigit = true) : isDigit c = true := by
  rw [isDigit, digitValue?_of_isDigit digit]
  rfl

/-- The digits of a written number are digits. -/
theorem isDigit_of_mem_toDigits {n : Nat} {c : Char} (member : c ∈ Nat.toDigits 10 n) :
    isDigit c = true :=
  isDigit_of_isDigit (Nat.isDigit_of_mem_toDigits (by decide) (by decide) member)

/-- Reading digits of ASCII is reading them in base ten. -/
theorem numeral_eq_ofDigitChars {run : List Char} (digits : ∀ c ∈ run, c.isDigit = true) :
    numeral run = Nat.ofDigitChars 10 run 0 := by
  have step : ∀ (run : List Char) (value : Nat), (∀ c ∈ run, c.isDigit = true) →
      run.foldl (fun value c => 10 * value + (digitValue? c).getD 0) value =
        Nat.ofDigitChars 10 run value := by
    intro run
    induction run with
    | nil => exact fun _ _ => rfl
    | cons c rest inductionHypothesis =>
      intro value digits
      have first := digitValue?_of_isDigit (digits c List.mem_cons_self)
      have later : ∀ d ∈ rest, d.isDigit = true := fun d member =>
        digits d (List.mem_cons_of_mem c member)
      rw [List.foldl_cons, inductionHypothesis _ later, Nat.ofDigitChars_cons, first]
      rfl
  exact step run 0 digits

/-- A written number is read back. -/
theorem numeral_toDigits (n : Nat) : numeral (Nat.toDigits 10 n) = n := by
  rw [numeral_eq_ofDigitChars fun _ member =>
    Nat.isDigit_of_mem_toDigits (by decide) (by decide) member]
  exact Nat.ofDigitChars_ten_toDigits

/-- A run of digits writes a number below the power of ten of its length. -/
theorem numeral_lt (run : List Char) : numeral run < tenTo run.length := by
  have step : ∀ run : List Char, numeral run.reverse < tenTo run.length := by
    intro run
    induction run with
    | nil => exact Nat.one_pos
    | cons c rest inductionHypothesis =>
      have digit : (digitValue? c).getD 0 < 10 := by
        cases found : digitValue? c with
        | none => exact Nat.succ_pos 9
        | some value => exact digitValue?_lt found
      have grown : tenTo (rest.length + 1) = 10 * tenTo rest.length := Nat.mul_comm _ 10
      rw [numeral, List.reverse_cons, List.foldl_append, List.foldl_cons, List.foldl_nil]
      change 10 * numeral rest.reverse + (digitValue? c).getD 0 < tenTo (rest.length + 1)
      omega
  simpa using step run.reverse

theorem tenTo_pos (exponent : Nat) : 0 < tenTo exponent := Nat.pow_pos (Nat.succ_pos 9)

theorem tenTo_le_tenTo {small large : Nat} (le : small ≤ large) : tenTo small ≤ tenTo large :=
  Nat.pow_le_pow_right (Nat.succ_pos 9) le

/-- What a run within the limit writes may be written again. -/
theorem writable_numeral {run : List Char} (short : run.length ≤ digitLimit) :
    Writable (numeral run) := by
  rw [writable_iff, Int.natAbs_natCast]
  exact Nat.lt_of_lt_of_le (numeral_lt run) (tenTo_le_tenTo short)

theorem writable_neg {n : Int} : Writable (-n) ↔ Writable n := by
  rw [Writable, Writable, Int.natAbs_neg]

/-- An integer that may be written is, in decimal. -/
theorem writeInteger_of_writable {n : Int} (writable : Writable n) :
    writeInteger n = .ok (decimal n) :=
  if_pos writable

theorem writeSigned_of_writable {n : Int} (writable : Writable n) :
    writeSigned n = .ok (signedDecimal n) :=
  if_pos writable

/-- Nothing else is written of an integer, and of one that may not be written nothing at all. -/
theorem writeInteger_eq_ok_iff {n : Int} {text : String} :
    writeInteger n = .ok text ↔ Writable n ∧ text = decimal n := by
  rw [writeInteger]
  split
  · next writable => simp [writable, eq_comm]
  · next unwritable => simp [unwritable]

/-- An integer is not written for one reason only. -/
theorem eq_of_writeInteger {n : Int} {error : NumberError}
    (failed : writeInteger n = .error error) :
    error = .tooLongToWrite := by
  rw [writeInteger] at failed
  split at failed
  · cases failed
  · exact (Except.error.inj failed).symm

theorem writeSigned_eq_ok_iff {n : Int} {text : String} :
    writeSigned n = .ok text ↔ Writable n ∧ text = signedDecimal n := by
  rw [writeSigned]
  split
  · next writable => simp [writable, eq_comm]
  · next unwritable => simp [unwritable]

/-- The text of a number that is not negative is made of its digits. -/
theorem decimal_of_nonneg {n : Int} (nonneg : 0 ≤ n) :
    decimal n = String.ofList (Nat.toDigits 10 n.natAbs) :=
  if_neg (Int.not_lt.2 nonneg)

/-- The text of a number with its sign is the sign before the digits of its size. -/
theorem signedDecimal_eq (n : Int) :
    signedDecimal n =
      String.ofList ((if n < 0 then '-' else '+') :: Nat.toDigits 10 n.natAbs) := by
  unfold signedDecimal decimal
  split <;> rw [String.ofList_cons] <;> rfl

/-- Integers are written with digits, and with a minus sign at most. -/
theorem mem_decimal {n : Int} {c : Char} (member : c ∈ (decimal n).toList) :
    c = '-' ∨ c.isDigit = true := by
  have digits {d : Char} (among : d ∈ Nat.toDigits 10 n.natAbs) : d.isDigit = true :=
    Nat.isDigit_of_mem_toDigits (by decide) (by decide) among
  rw [decimal] at member
  split at member
  · rw [String.toList_append, Nat.toList_repr, List.mem_append] at member
    exact member.imp (by simp) digits
  · rw [Nat.toList_repr] at member
    exact .inr (digits member)

theorem mem_signedDecimal {n : Int} {c : Char} (member : c ∈ (signedDecimal n).toList) :
    c = '+' ∨ c = '-' ∨ c.isDigit = true := by
  rw [signedDecimal] at member
  split at member
  · exact .inr (mem_decimal member)
  · rw [String.toList_append, List.mem_append] at member
    exact member.imp (by simp) mem_decimal

theorem notMem_decimal {c : Char} (sign : c ≠ '-') (other : c.isDigit = false) (n : Int) :
    c ∉ (decimal n).toList := by
  intro member
  rcases mem_decimal member with minus | digit
  · exact sign minus
  · rw [other] at digit
    cases digit

theorem notMem_signedDecimal {c : Char} (signs : c ≠ '+' ∧ c ≠ '-') (other : c.isDigit = false)
    (n : Int) : c ∉ (signedDecimal n).toList := by
  intro member
  rcases mem_signedDecimal member with plus | minus | digit
  · exact signs.1 plus
  · exact signs.2 minus
  · rw [other] at digit
    cases digit

/-- A minus sign is written for a negative integer only. -/
theorem minus_mem_decimal_iff {n : Int} : '-' ∈ (decimal n).toList ↔ n < 0 := by
  by_cases negative : n < 0
  · simp [decimal, negative]
  · have digits : '-' ∉ (decimal n).toList := by
      rw [decimal_of_nonneg (Int.not_lt.1 negative), String.toList_ofList]
      intro member
      cases (Nat.isDigit_of_mem_toDigits (by decide) (by decide) member : '-'.isDigit = true)
    exact iff_of_false digits negative

/-- Different integers have different signs or digits. -/
theorem signedDecimal_injective : Function.Injective signedDecimal := by
  intro m n same
  rw [signedDecimal_eq, signedDecimal_eq, String.ofList_inj] at same
  obtain ⟨sign, digits⟩ := List.cons.inj same
  have size : m.natAbs = n.natAbs := by
    have read := congrArg numeral digits
    rwa [numeral_toDigits, numeral_toDigits] at read
  have signs : m < 0 ↔ n < 0 := by
    by_cases negative : m < 0 <;> by_cases negative' : n < 0 <;>
      simp [negative, negative'] at sign ⊢
  omega

theorem decimal_injective : Function.Injective decimal := by
  intro m n same
  have signs : m < 0 ↔ n < 0 := by
    rw [← minus_mem_decimal_iff, ← minus_mem_decimal_iff, same]
  apply signedDecimal_injective
  simp only [signedDecimal, signs, same]

theorem decimal_ne_empty (n : Int) : decimal n ≠ "" := by
  rw [decimal]
  split
  · simp
  · exact Nat.repr_ne_empty

section Reading

/-- Neither digits nor signs of ASCII are white space. -/
theorem isMargin_eq_false {c : Char} (above : 32 < c.toNat) (below : c.toNat < 128) :
    isMargin c = false := by
  have solid : isBlank c = false := by
    rw [isBlank, Bool.eq_false_iff, Ne, CharClass.contains_iff]
    rintro ⟨range, member, bounds⟩
    simp only [blankClass, List.mem_cons, List.not_mem_nil, or_false] at member
    rcases member with rfl | rfl | rfl | rfl | rfl | rfl | rfl | rfl | rfl | rfl <;> 
      dsimp only at bounds <;> omega
  rw [isMargin, solid, Bool.false_and]

/-- Where no underscore stands, there must be digits. -/
theorem underscoresBetween_of_notMem {run : List Char} (plain : '_' ∉ run) (digit : Bool) :
    underscoresBetween digit run = (digit || !run.isEmpty) := by
  induction run generalizing digit with
  | nil => cases digit <;> rfl
  | cons c rest inductionHypothesis =>
    rw [List.mem_cons, not_or] at plain
    rw [underscoresBetween, inductionHypothesis plain.2, Bool.true_or]
    · cases digit <;> rfl
    · exact fun same => plain.1 same.symm

/-- An integer is read from its digits and the sign before them. -/
theorem readInteger_of_body {text : String} {negative : Bool} {digits : List Char}
    (signed : splitSign (text.toList.dropWhile isMargin) = (negative, digits))
    (present : digits ≠ []) (ascii : ∀ c ∈ digits, c.isDigit = true)
    (short : digits.length ≤ digitLimit) :
    readInteger text = .ok (if negative then -(numeral digits : Int) else numeral digits) := by
  have plain : '_' ∉ digits := fun member => absurd (ascii '_' member) (by decide)
  have run : (digits ++ []).takeWhile (fun c => isDigit c || c = '_') = digits := by
    have accepted : ∀ c ∈ digits, (isDigit c || decide (c = '_')) = true := fun c member => by
      rw [isDigit_of_isDigit (ascii c member), Bool.true_or]
    rw [List.takeWhile_append_of_pos accepted, List.takeWhile_nil, List.append_nil]
  rw [List.append_nil] at run
  have clean : digits.filter (· ≠ '_') = digits :=
    List.filter_eq_self.2 fun c member => decide_eq_true fun same => plain (same ▸ member)
  have between : underscoresBetween false digits = true := by
    rw [underscoresBetween_of_notMem plain, Bool.false_or, Bool.not_eq_true']
    exact List.isEmpty_eq_false_iff.2 present
  rw [readInteger, signed]
  dsimp only
  rw [run, clean, between, if_neg (by decide), if_neg (Nat.not_lt.2 short), List.drop_length]
  rfl

/-- A written integer is read back. -/
theorem readInteger_decimal {n : Int} (writable : Writable n) :
    readInteger (decimal n) = .ok n := by
  have ascii : ∀ c ∈ Nat.toDigits 10 n.natAbs, c.isDigit = true := fun _ member =>
    Nat.isDigit_of_mem_toDigits (by decide) (by decide) member
  have present : Nat.toDigits 10 n.natAbs ≠ [] := Nat.toDigits_ne_nil
  have value := numeral_toDigits n.natAbs
  by_cases negative : n < 0
  · have signed : splitSign ((decimal n).toList.dropWhile isMargin) =
        (true, Nat.toDigits 10 n.natAbs) := by
      have text : (decimal n).toList = '-' :: Nat.toDigits 10 n.natAbs := by
        rw [decimal, if_pos negative, String.toList_append, Nat.toList_repr]
        rfl
      rw [text, List.dropWhile_cons_of_neg (by decide)]
      rfl
    rw [readInteger_of_body signed present ascii writable, value, if_pos rfl]
    exact congrArg Except.ok (by omega)
  · have signed : splitSign ((decimal n).toList.dropWhile isMargin) =
        (false, Nat.toDigits 10 n.natAbs) := by
      rw [decimal_of_nonneg (Int.not_lt.1 negative), String.toList_ofList]
      cases digits : Nat.toDigits 10 n.natAbs with
      | nil => exact absurd digits present
      | cons c rest =>
        have bounds := bounds_of_isDigit (ascii c (digits ▸ List.mem_cons_self))
        have solid : isMargin c = false := isMargin_eq_false (by omega) (by omega)
        rw [List.dropWhile_cons_of_neg (by rw [solid]; decide), splitSign]
        · rintro others same
          cases same
          exact absurd bounds (by decide)
        · rintro others same
          cases same
          exact absurd bounds (by decide)
    rw [readInteger_of_body signed present ascii writable, value, if_neg (by decide)]
    exact congrArg Except.ok (by omega)

end Reading

end DiceTray
