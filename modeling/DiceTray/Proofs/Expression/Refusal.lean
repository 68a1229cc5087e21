import DiceTray.Proofs.Expression.Reading

/-!
# The fault of a malformed text

Which part a refused text is refused for, said without the reader. The places where the parts of a
text begin are found by searching for the `d` and by running over digits, whether the parts are in
order or not; a text is at fault for its leftmost part that is not. `leftmostFault` says so for
every text, and the report on a refused text always names that part.
-/

namespace DiceTray.Expression

open Text

/-! ## Where the parts of a text begin -/

/-- What stands in front of the first `d`. -/
def countPart (text : List Char) : List Char := text.takeWhile (· ≠ 'd')

/-- What stands behind the first `d`. -/
def afterSeparator (text : List Char) : List Char := (text.dropWhile (· ≠ 'd')).tail

/-- What stands behind the digits at the front. -/
def afterDigits (rest : List Char) : List Char := rest.dropWhile isDigit

/-- What stands behind the mark for rerolls, if it is there. -/
def afterReroll (rest : List Char) : List Char :=
  if rest.head? = some 'r' then rest.tail else rest

/-- A sign stands at the front. -/
def Signed (rest : List Char) : Prop := rest.head? = some '+' ∨ rest.head? = some '-'

instance (rest : List Char) : Decidable (Signed rest) := inferInstanceAs (Decidable (_ ∨ _))

/-- What stands behind the modifier, if there is one. -/
def afterModifier (rest : List Char) : List Char :=
  if Signed rest then afterDigits rest.tail else rest

/-- What stands behind the repetitions, if they are there. -/
def afterRepetitions (rest : List Char) : List Char :=
  if rest.head? = some '*' then afterDigits rest.tail
  else if rest.head? = some '[' then (afterDigits rest.tail).tail
  else rest

/-! ## Parts that are not in order -/

instance (rest : List Char) : Decidable (EndsRun rest) := Option.decidableForallMem rest.head?

/-- The number that the digits at the front write; without digits it is zero. -/
def leadingNumber (rest : List Char) : Nat := numeral (rest.takeWhile isDigit)

/-- A count is there and is no run of digits, or one of value zero. -/
def FaultyCount (part : List Char) : Prop :=
  part ≠ [] ∧ ¬ ((∀ c ∈ part, isDigit c = true) ∧ 1 ≤ numeral part)

-- The characters of the part are looked at, and not all that there are.
instance (part : List Char) : Decidable (FaultyCount part) :=
  have _ : Decidable (∀ c ∈ part, isDigit c = true) := List.decidableBAll _ part
  inferInstanceAs (Decidable (_ ∧ ¬ (_ ∧ _)))

/-- No digit stands where the sides should be, or they are fewer than two. -/
def FaultySides (rest : List Char) : Prop := EndsRun rest ∨ leadingNumber rest < 2

instance (rest : List Char) : Decidable (FaultySides rest) := inferInstanceAs (Decidable (_ ∨ _))

/-- A sign stands without a digit behind it. -/
def FaultyModifier (rest : List Char) : Prop := Signed rest ∧ EndsRun rest.tail

instance (rest : List Char) : Decidable (FaultyModifier rest) :=
  inferInstanceAs (Decidable (_ ∧ _))

/-- A bracket is closed that was not opened, a star has no positive number behind it or has one that
a bracket closes, or an opening bracket has no positive number behind it that a bracket closes. -/
def FaultyRepetitions (rest : List Char) : Prop :=
  let positive := 1 ≤ leadingNumber rest.tail
  let closed := (afterDigits rest.tail).head? = some ']'
  rest.head? = some ']' ∨
    rest.head? = some '*' ∧ ¬ (positive ∧ ¬ closed) ∨
    rest.head? = some '[' ∧ ¬ (positive ∧ closed)

instance (rest : List Char) : Decidable (FaultyRepetitions rest) :=
  inferInstanceAs (Decidable (_ ∨ _ ∨ _))

/-- The leftmost part of a text that is not in order. Where all parts are, only what follows them
can be at fault. -/
def leftmostFault (text : List Char) : PartKind :=
  let sides := afterSeparator text
  let modifier := afterReroll (afterDigits sides)
  if 'd' ∉ text then .separator
  else if FaultyCount (countPart text) then .count
  else if FaultySides sides then .sides
  else if FaultyModifier modifier then .modifier
  else if FaultyRepetitions (afterModifier modifier) then .repetitions
  else .trailing

/-! ## What the reader makes of the parts -/

/-- A reader of a part tells its faults: it succeeds only on a part without fault and leaves what
stands behind it, and it refuses only a part with a fault, for a cause of the kind of the part. -/
structure Judges {α : Type} (faulty : Prop) (kind : PartKind) (behind : List Char)
    (result : Except Stop (α × List Char)) : Prop where
  /-- What is read is in order. -/
  accepted : ∀ value rest, result = .ok (value, rest) → ¬ faulty ∧ rest = behind
  /-- What is refused is not. -/
  refused : ∀ cause rest, result = .error (.refused cause rest) → faulty ∧ cause.kind = kind

/-- What is refused by a reader and those after it is refused for the part of that reader, or by the
others, which go on behind it. -/
theorem Judges.cases_of_refused {α β : Type} {faulty : Prop} {kind : PartKind}
    {behind rest : List Char} {cause : Cause} {result : Except Stop (α × List Char)}
    {next : α × List Char → Except Stop β} (judges : Judges faulty kind behind result)
    (refused : result >>= next = .error (.refused cause rest)) :
    faulty ∧ cause.kind = kind ∨
      ¬ faulty ∧ ∃ value, next (value, behind) = .error (.refused cause rest) := by
  rcases bind_eq_error_iff.1 refused with failed | ⟨⟨value, left⟩, done, failed⟩
  · exact .inl (judges.refused cause rest failed)
  · obtain ⟨inOrder, rfl⟩ := judges.accepted value left done
    exact .inr ⟨inOrder, value, failed⟩

/-- Digits are read as the number that they write. -/
theorem leadingNumber_of_readDigits {cs rest : List Char} {value : Option Nat}
    (found : readDigits cs = .ok (value, rest)) :
    rest = afterDigits cs ∧
      (value = none ∧ EndsRun cs ∨ value = some (leadingNumber cs) ∧ ¬ EndsRun cs) := by
  obtain ⟨run, rfl, rfl, ends⟩ := readDigits_eq_ok found
  cases run with
  | none => exact ⟨ends.dropWhile_eq_self.symm, .inl ⟨rfl, ends⟩⟩
  | some run =>
    refine ⟨(dropWhile_digits_append run.areDigits ends).symm, .inr ⟨?_, ?_⟩⟩
    · rw [leadingNumber, countChars, takeWhile_digits_append run.areDigits ends]
      rfl
    · obtain ⟨first, others, digits⟩ := List.exists_cons_of_ne_nil run.nonempty
      have digit := run.areDigits first (digits ▸ List.mem_cons_self)
      simp [countChars, digits, digit]

/-- Digits are never refused: there are none, or too many of them. -/
theorem readDigits_ne_refused (cs : List Char) (cause : Cause) (rest : List Char) :
    readDigits cs ≠ .error (.refused cause rest) := by
  intro failed
  simp only [readDigits] at failed
  split at failed
  · cases failed
  · split at failed <;> cases failed

/-- What was refused after digits was refused for what stands there. -/
theorem readDigits_bind_refused {α : Type} {cs rest : List Char} {cause : Cause}
    {next : Option Nat × List Char → Except Stop α}
    (refused : readDigits cs >>= next = .error (.refused cause rest)) :
    ∃ value, readDigits cs = .ok (value, afterDigits cs) ∧
      next (value, afterDigits cs) = .error (.refused cause rest) := by
  rcases bind_eq_error_iff.1 refused with failed | ⟨⟨value, left⟩, digits, failed⟩
  · exact absurd failed (readDigits_ne_refused cs cause rest)
  · obtain ⟨rfl, -⟩ := leadingNumber_of_readDigits digits
    exact ⟨value, digits, failed⟩

/-- The digits of a count stand in front of the first `d`. -/
theorem countPart_append {digits : List Char} (rest : List Char)
    (areDigits : ∀ c ∈ digits, isDigit c = true) :
    countPart (digits ++ 'd' :: rest) = digits ∧ afterSeparator (digits ++ 'd' :: rest) = rest := by
  have others : ∀ c ∈ digits, decide (c ≠ 'd') = true := by
    intro c member
    refine decide_eq_true fun same => ?_
    have digit := areDigits c member
    rw [same] at digit
    exact absurd digit (by decide)
  constructor
  · rw [countPart, List.takeWhile_append_of_pos others, List.takeWhile_cons_of_neg (by simp),
      List.append_nil]
  · rw [afterSeparator, List.dropWhile_append_of_pos others, List.dropWhile_cons_of_neg (by simp),
      List.tail_cons]

/-- Digits hold no `d`. -/
theorem separator_mem_iff (text : List Char) : 'd' ∈ text ↔ 'd' ∈ afterDigits text := by
  have parted : text = text.takeWhile isDigit ++ afterDigits text :=
    List.takeWhile_append_dropWhile.symm
  have other : 'd' ∉ text.takeWhile isDigit := fun member =>
    absurd (List.mem_takeWhile_imp member) (by decide)
  constructor
  · intro member
    rw [parted] at member
    exact (List.mem_append.1 member).resolve_left other
  · intro member
    rw [parted]
    exact List.mem_append_right _ member

/-- A count in which something else than a digit stands is at fault. -/
theorem faultyCount_of_afterDigits {text after : List Char} {c : Char}
    (left : afterDigits text = c :: after) (other : c ≠ 'd') : FaultyCount (countPart text) := by
  have ends : EndsRun (afterDigits text) := endsRun_dropWhile text
  rw [left, endsRun_cons] at ends
  have parted : text = text.takeWhile isDigit ++ c :: after :=
    left ▸ List.takeWhile_append_dropWhile.symm
  have others : ∀ b ∈ text.takeWhile isDigit, decide (b ≠ 'd') = true := by
    intro b member
    refine decide_eq_true fun same => ?_
    exact absurd (same ▸ List.mem_takeWhile_imp member) (by decide)
  have member : c ∈ countPart text := by
    rw [parted, countPart, List.takeWhile_append_of_pos others]
    simp [other]
  refine ⟨List.ne_nil_of_mem member, fun count => ?_⟩
  rw [count.1 c member] at ends
  cases ends

/-- A count of value zero is at fault. -/
theorem faultyCount_of_zero {text after : List Char} (left : afterDigits text = 'd' :: after)
    (present : ¬ EndsRun text) (zero : leadingNumber text = 0) : FaultyCount (countPart text) := by
  have parted : text = text.takeWhile isDigit ++ 'd' :: after :=
    left ▸ List.takeWhile_append_dropWhile.symm
  have part : countPart text = text.takeWhile isDigit := by
    have cut := (countPart_append after fun c (member : c ∈ text.takeWhile isDigit) =>
      List.mem_takeWhile_imp member).1
    rwa [← parted] at cut
  rw [part]
  refine ⟨fun none => present ?_, fun count => ?_⟩
  · rw [none] at parted
    exact parted ▸ endsRun_cons.2 (by decide)
  · rw [leadingNumber] at zero
    exact absurd (zero ▸ count.2) (by decide)

theorem judges_readCount (text : List Char) :
    Judges ('d' ∉ text ∨ FaultyCount (countPart text))
      (if 'd' ∉ text then .separator else .count) (afterSeparator text) (readCount text) := by
  constructor
  · intro value rest found
    obtain ⟨count, positive, rfl, -⟩ := readCount_eq_ok_iff.1 found
    obtain ⟨part, behind⟩ := countPart_append rest (countChars_areDigits count)
    rw [part, behind]
    refine ⟨?_, rfl⟩
    rintro (absent | ⟨present, faulty⟩)
    · exact absent (by simp)
    · cases count with
      | none => exact present rfl
      | some run => exact faulty ⟨run.areDigits, positive run rfl⟩
  · intro cause rest refused
    obtain ⟨value, digits, refused⟩ := readDigits_bind_refused refused
    have somewhere := separator_mem_iff text
    match left : afterDigits text with
    | [] =>
      rw [left] at refused somewhere
      cases refused
      have absent : 'd' ∉ text := fun member => nomatch somewhere.1 member
      rw [if_pos absent]
      exact ⟨.inl absent, rfl⟩
    | c :: after =>
      rw [left] at refused somewhere
      simp only at refused
      split at refused
      · next separator =>
        subst separator
        have present := somewhere.2 List.mem_cons_self
        rw [if_neg (not_not.2 present)]
        match value with
        | none => cases refused
        | some 0 =>
          cases refused
          obtain ⟨-, ⟨absent, -⟩ | ⟨zero, counted⟩⟩ := leadingNumber_of_readDigits digits
          · cases absent
          · exact ⟨.inr (faultyCount_of_zero left counted (Option.some.inj zero).symm), rfl⟩
        | some (count + 1) => cases refused
      · next other =>
        split at refused
        · next member =>
          cases refused
          rw [if_neg (not_not.2 (somewhere.2 member))]
          exact ⟨.inr (faultyCount_of_afterDigits left other), rfl⟩
        · next absent =>
          cases refused
          rw [if_pos fun member => absent (somewhere.1 member)]
          exact ⟨.inl fun member => absent (somewhere.1 member), rfl⟩

theorem judges_readSides (text : List Char) :
    Judges (FaultySides text) .sides (afterDigits text) (readSides text) := by
  constructor
  · intro value rest found
    obtain ⟨run, enough, rfl, -, ends⟩ := readSides_eq_ok_iff.1 found
    obtain ⟨behind, ⟨absent, -⟩ | ⟨number, present⟩⟩ :=
      leadingNumber_of_readDigits (readDigits_append run ends)
    · cases absent
    · refine ⟨?_, behind⟩
      rintro (none | few)
      · exact present none
      · rw [← Option.some.inj number] at few
        exact absurd enough (Nat.not_le.2 few)
  · intro cause rest refused
    obtain ⟨value, digits, refused⟩ := readDigits_bind_refused refused
    obtain ⟨-, ⟨rfl, none⟩ | ⟨rfl, -⟩⟩ := leadingNumber_of_readDigits digits
    · cases refused
      exact ⟨.inl none, rfl⟩
    · simp only at refused
      split at refused
      · next few =>
        cases refused
        exact ⟨.inr few, rfl⟩
      · cases refused

theorem readReroll_snd (text : List Char) : (readReroll text).2 = afterReroll text := by
  cases text with
  | nil => rfl
  | cons c rest =>
    by_cases mark : c = 'r' <;> simp [readReroll, afterReroll, mark]

theorem signed_cons {c : Char} {rest : List Char} : Signed (c :: rest) ↔ c = '+' ∨ c = '-' := by
  simp [Signed]

theorem judges_readModifier (text : List Char) :
    Judges (FaultyModifier text) .modifier (afterModifier text) (readModifier text) := by
  match text with
  | [] =>
    constructor
    · intro value rest found
      cases found
      exact ⟨by simp [FaultyModifier, Signed], rfl⟩
    · intro cause rest refused
      cases refused
  | c :: body =>
    rw [readModifier]
    split
    · next sign =>
      constructor
      · intro value rest found
        obtain ⟨⟨number, left⟩, digits, found⟩ := bind_eq_ok_iff.1 found
        obtain ⟨rfl, ⟨rfl, none⟩ | ⟨rfl, present⟩⟩ := leadingNumber_of_readDigits digits
        · cases found
        · cases found
          exact ⟨fun faulty => present faulty.2, (if_pos (signed_cons.2 sign)).symm⟩
      · intro cause rest refused
        obtain ⟨number, digits, refused⟩ := readDigits_bind_refused refused
        obtain ⟨-, ⟨rfl, none⟩ | ⟨rfl, -⟩⟩ := leadingNumber_of_readDigits digits
        · cases refused
          exact ⟨⟨signed_cons.2 sign, none⟩, rfl⟩
        · cases refused
    · next unsigned =>
      constructor
      · intro value rest found
        cases found
        have plain : ¬ Signed (c :: body) := fun signed => unsigned (signed_cons.1 signed)
        exact ⟨fun faulty => plain faulty.1, (if_neg plain).symm⟩
      · intro cause rest refused
        cases refused

/-- Behind a star or an opening bracket stands a positive number, which a bracket closes where one
was opened and nowhere else. -/
theorem faultyRepetitions_cons {c : Char} {body : List Char} (opened : c = '*' ∨ c = '[') :
    FaultyRepetitions (c :: body) ↔
      ¬ (1 ≤ leadingNumber body ∧ ((afterDigits body).head? = some ']' ↔ c = '[')) := by
  rcases opened with rfl | rfl <;> simp [FaultyRepetitions]

/-- Repetitions that were read are in order. -/
theorem accepted_of_readRepetitions {c : Char} {body rest : List Char} {value : Nat}
    (opened : c = '*' ∨ c = '[') (found : readRepetitions (c :: body) = .ok (value, rest)) :
    ¬ FaultyRepetitions (c :: body) ∧ rest = afterRepetitions (c :: body) := by
  obtain ⟨run, left, positive, rfl, ends⟩ := exists_run_of_readRepetitions opened found
  obtain ⟨behind, ⟨absent, -⟩ | ⟨number, -⟩⟩ :=
    leadingNumber_of_readDigits (readDigits_append run ends)
  · cases absent
  rw [faultyRepetitions_cons opened, not_not, ← Option.some.inj number, ← behind, afterRepetitions,
    List.tail_cons, ← behind]
  rcases opened with rfl | rfl
  · rw [readRepetitions_star positive ends] at found
    split at found
    · cases found
    · next unclosed =>
      cases found
      simp [positive, unclosed]
  · rw [readRepetitions_brackets positive ends] at found
    split at found
    · next closed =>
      cases found
      simp [positive, closed]
    · cases found

/-- Repetitions that were refused are not, and that is what they were refused for. -/
theorem faulty_of_readRepetitions {c : Char} {body rest : List Char} {cause : Cause}
    (opened : c = '*' ∨ c = '[')
    (refused : readRepetitions (c :: body) = .error (.refused cause rest)) :
    FaultyRepetitions (c :: body) ∧ cause.kind = .repetitions := by
  rw [faultyRepetitions_cons opened]
  have reading := refused
  rw [readRepetitions, if_pos opened] at reading
  obtain ⟨number, digits, reading⟩ := readDigits_bind_refused reading
  obtain ⟨run, parted, rfl, ends⟩ := readDigits_eq_ok digits
  obtain ⟨-, ⟨absent, none⟩ | ⟨same, -⟩⟩ := leadingNumber_of_readDigits digits
  · rw [absent] at reading
    cases reading
    refine ⟨fun accepted => ?_, rfl⟩
    rw [leadingNumber, none.takeWhile_eq_nil] at accepted
    exact absurd accepted.1 (by decide)
  · obtain ⟨run, rfl, value⟩ := Option.map_eq_some_iff.1 same
    rw [← value]
    rcases Nat.eq_zero_or_pos run.value with zero | positive
    · simp only [Option.map_some, zero] at reading
      cases reading
      exact ⟨by simp [zero], rfl⟩
    · -- behind a positive number only the bracket can be wrong
      rw [parted, countChars] at refused
      rcases opened with rfl | rfl
      · rw [readRepetitions_star positive ends] at refused
        split at refused
        · next closed =>
          cases refused
          exact ⟨by simp [closed], rfl⟩
        · cases refused
      · rw [readRepetitions_brackets positive ends] at refused
        split at refused
        · cases refused
        · next unclosed =>
          cases refused
          exact ⟨by simp [unclosed], rfl⟩

theorem judges_readRepetitions (text : List Char) :
    Judges (FaultyRepetitions text) .repetitions (afterRepetitions text)
      (readRepetitions text) := by
  match text with
  | [] =>
    constructor
    · intro value rest found
      cases found
      exact ⟨by simp [FaultyRepetitions], rfl⟩
    · intro cause rest refused
      cases refused
  | c :: body =>
    by_cases opened : c = '*' ∨ c = '['
    · exact ⟨fun _ _ => accepted_of_readRepetitions opened,
        fun _ _ => faulty_of_readRepetitions opened⟩
    · rw [readRepetitions, if_neg opened]
      split
      · next stray =>
        subst stray
        constructor
        · intro value rest found
          cases found
        · intro cause rest refused
          cases refused
          exact ⟨.inl rfl, rfl⟩
      · next other =>
        constructor
        · intro value rest found
          cases found
          simp only [not_or] at opened
          exact ⟨by simp [FaultyRepetitions, opened, other], by simp [afterRepetitions, opened]⟩
        · intro cause rest refused
          cases refused

/-- A text is refused for its leftmost part that is not in order. -/
theorem kind_of_readChars {text rest : List Char} {cause : Cause}
    (refused : readChars text = .error (.refused cause rest)) :
    cause.kind = leftmostFault text := by
  rcases (judges_readCount text).cases_of_refused refused with
    ⟨faulty, kind⟩ | ⟨inOrder, count, refused⟩
  · rw [kind, leftmostFault]
    by_cases separated : 'd' ∈ text
    · have counted := faulty.resolve_left (not_not.2 separated)
      simp [separated, counted]
    · simp [separated]
  obtain ⟨separated, counted⟩ := not_or.1 inOrder
  rw [leftmostFault, if_neg separated, if_neg counted]
  rcases (judges_readSides _).cases_of_refused refused with
    ⟨faulty, kind⟩ | ⟨inOrder, sides, refused⟩
  · rw [kind, if_pos faulty]
  rw [if_neg inOrder]
  rcases rolled : readReroll (afterDigits (afterSeparator text)) with ⟨reroll, left⟩
  obtain rfl : left = afterReroll (afterDigits (afterSeparator text)) := by
    rw [← readReroll_snd, rolled]
  simp only [rolled] at refused
  rcases (judges_readModifier _).cases_of_refused refused with
    ⟨faulty, kind⟩ | ⟨inOrder, modifier, refused⟩
  · rw [kind, if_pos faulty]
  rw [if_neg inOrder]
  rcases (judges_readRepetitions _).cases_of_refused refused with
    ⟨faulty, kind⟩ | ⟨inOrder, repetitions, refused⟩
  · rw [kind, if_pos faulty]
  rw [if_neg inOrder]
  simp only at refused
  split at refused
  · cases refused
  · cases refused
    rfl

/-- The report on a malformed text keeps the text, also as it was given, places the fault within it,
and is of the kind of the leftmost part that is not in order. -/
theorem report_names_leftmost_fault {text : String} {error : ParseError}
    (refused : parse text = .error (.malformed error)) :
    error.text = normalize text ∧ error.source = text ∧ error.position ≤ error.text.length ∧
      error.cause.kind = leftmostFault (normalizeChars text.toList) := by
  obtain ⟨stop, failed, reported⟩ := mapError_eq_error_iff.1 refused
  cases stop with
  | number error => cases reported
  | refused cause rest =>
    cases reported
    refine ⟨rfl, rfl, ?_, kind_of_readChars failed⟩
    rw [String.length_ofList]
    exact Nat.sub_le _ _

/-- No dice of one side with a sign: the count is reported. -/
theorem report_names_leftmost_fault_of_three :
    parse " 0D1+" = .error (.malformed ⟨.badCount, "0d1+", " 0D1+", 0⟩) ∧
      leftmostFault (normalizeChars " 0D1+".toList) = .count := by
  have refused : parse " 0D1+" = .error (.malformed ⟨.badCount, "0d1+", " 0D1+", 0⟩) := by
    decide +kernel
  exact ⟨refused, (report_names_leftmost_fault refused).2.2.2.symm⟩

end DiceTray.Expression
