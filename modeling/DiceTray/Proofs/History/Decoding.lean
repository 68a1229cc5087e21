import DiceTray.Proofs.History.Ordering
import DiceTray.Proofs.Number.Numeral
import DiceTray.Proofs.Sequence
import DiceTray.Proofs.Text.Pieces

/-!
# Reading the history

What is written to the history file can be read back: a decoder takes lines apart at their
separators, and from the lines of any draws it gets the draws, by increasing number of sides and
with the values in the order in which they were drawn.
-/

namespace DiceTray.History

/-- The numbers that a text lists with commas between them. -/
def decodeValues (text : String) : Option (List Int) :=
  (piecesAt ',' text).mapM fun value => (readInteger value).toOption

/-- The number of sides and the values that a line tells of, whatever its stamp and version. -/
def decodeLine (line : String) : Option (Int × List Int) :=
  match piecesAt '|' line with
  | [_, _, entry] =>
    match piecesAt ':' entry with
    | [sides, values] => do
      let sides ← (readInteger sides).toOption
      let values ← decodeValues values
      return (sides, values)
    | _ => none
  | _ => none

/-- The draws that the lines of a text tell of, if all of them can be read and the last one is
ended. -/
def decode (text : String) : Option Draws :=
  let lines := piecesAt '\n' text
  if lines.getLast? = some "" then lines.dropLast.mapM decodeLine else none

variable {stamp program line : String} {sides : Int} {values : List Int} {draws : Draws}

theorem read_of_writeInteger {n : Int} {text : String} (written : writeInteger n = .ok text) :
    (readInteger text).toOption = some n := by
  obtain ⟨writable, rfl⟩ := writeInteger_eq_ok_iff.1 written
  rw [readInteger_decimal writable]
  rfl

/-- No other character than those of an integer is written. -/
theorem notMem_of_writeInteger {n : Int} {text : String} {c : Char}
    (written : writeInteger n = .ok text) (other : c ≠ '-') (noDigit : c.isDigit = false) :
    c ∉ text.toList := by
  obtain ⟨-, rfl⟩ := writeInteger_eq_ok_iff.1 written
  intro member
  rcases mem_decimal member with same | digit
  · exact other same
  · rw [noDigit] at digit
    cases digit

theorem notMem_of_mapM_writeInteger {texts : List String} {c : Char}
    (written : values.mapM writeInteger = .ok texts) (other : c ≠ '-')
    (noDigit : c.isDigit = false) : ∀ text ∈ texts, c ∉ text.toList :=
  forall_mem_of_mapM (fun _ _ _ wrote => notMem_of_writeInteger wrote other noDigit) written

/-- The parts of a line: bars set off the stamp and the version, a colon stands between the sides
and the values, and commas stand between the values. -/
theorem entryLine_eq_ok_iff : entryLine stamp program sides values = .ok line ↔
    ∃ side texts, writeInteger sides = .ok side ∧ values.mapM writeInteger = .ok texts ∧
      line = "|".intercalate [stamp, program, ":".intercalate [side, ",".intercalate texts]] := by
  have parts (side values : String) :
      stamp ++ "|" ++ program ++ "|" ++ side ++ ":" ++ values =
        "|".intercalate [stamp, program, ":".intercalate [side, values]] := by
    simp only [String.intercalate_cons_cons, String.intercalate_singleton, String.append_assoc]
  simp only [entryLine, bind_eq_ok_iff]
  constructor
  · rintro ⟨side, wrote, texts, listed, made⟩
    cases made
    exact ⟨side, texts, wrote, listed, parts side _⟩
  · rintro ⟨side, texts, wrote, listed, rfl⟩
    exact ⟨side, wrote, texts, listed, congrArg Except.ok (parts side _)⟩

/-- What is written of the values holds no other characters than commas and those of integers. -/
theorem notMem_of_values {texts : List String} {c : Char}
    (listed : values.mapM writeInteger = .ok texts) (comma : c ≠ ',') (other : c ≠ '-')
    (noDigit : c.isDigit = false) : c ∉ (",".intercalate texts).toList :=
  notMem_intercalate (by simpa using comma) (notMem_of_mapM_writeInteger listed other noDigit)

theorem notMem_of_entry {side : String} {texts : List String} {c : Char}
    (wrote : writeInteger sides = .ok side) (listed : values.mapM writeInteger = .ok texts)
    (colon : c ≠ ':') (comma : c ≠ ',') (other : c ≠ '-') (noDigit : c.isDigit = false) :
    c ∉ (":".intercalate [side, ",".intercalate texts]).toList := by
  refine notMem_intercalate (by simpa using colon) ?_
  simp only [List.mem_cons, List.not_mem_nil, or_false, forall_eq_or_imp, forall_eq]
  exact ⟨notMem_of_writeInteger wrote other noDigit, notMem_of_values listed comma other noDigit⟩

/-- A line holds no line end, unless its stamp or version does. -/
theorem notMem_of_entryLine (stamped : '\n' ∉ stamp.toList) (versioned : '\n' ∉ program.toList)
    (written : entryLine stamp program sides values = .ok line) : '\n' ∉ line.toList := by
  obtain ⟨side, texts, wrote, listed, rfl⟩ := entryLine_eq_ok_iff.1 written
  refine notMem_intercalate (by decide) ?_
  simp only [List.mem_cons, List.not_mem_nil, or_false, forall_eq_or_imp, forall_eq]
  exact ⟨stamped, versioned,
    notMem_of_entry wrote listed (by decide) (by decide) (by decide) (by decide)⟩

/-- A line that names values is read back, unless its stamp or version has a bar. -/
theorem decodeLine_of_entryLine (stamped : '|' ∉ stamp.toList) (versioned : '|' ∉ program.toList)
    (present : values ≠ []) (written : entryLine stamp program sides values = .ok line) :
    decodeLine line = some (sides, values) := by
  obtain ⟨side, texts, wrote, listed, rfl⟩ := entryLine_eq_ok_iff.1 written
  have back : texts.mapM (fun text => (readInteger text).toOption) = some values :=
    mapM_of_mapM (fun value _ text => read_of_writeInteger) listed
  have some : texts ≠ [] := by
    rintro rfl
    exact present (Option.some.inj back).symm
  have bars : piecesAt '|'
      ("|".intercalate [stamp, program, ":".intercalate [side, ",".intercalate texts]]) =
        [stamp, program, ":".intercalate [side, ",".intercalate texts]] := by
    refine piecesAt_intercalate (List.cons_ne_nil _ _) ?_
    simp only [List.mem_cons, List.not_mem_nil, or_false, forall_eq_or_imp, forall_eq]
    exact ⟨stamped, versioned,
      notMem_of_entry wrote listed (by decide) (by decide) (by decide) (by decide)⟩
  have colon : piecesAt ':' (":".intercalate [side, ",".intercalate texts]) =
      [side, ",".intercalate texts] := by
    refine piecesAt_intercalate (List.cons_ne_nil _ _) ?_
    simp only [List.mem_cons, List.not_mem_nil, or_false, forall_eq_or_imp, forall_eq]
    exact ⟨notMem_of_writeInteger wrote (by decide) (by decide),
      notMem_of_values listed (by decide) (by decide) (by decide)⟩
  have commas : piecesAt ',' (",".intercalate texts) = texts :=
    piecesAt_intercalate some (notMem_of_mapM_writeInteger listed (by decide) (by decide))
  rw [decodeLine, bars]
  dsimp only
  rw [colon]
  dsimp only
  rw [read_of_writeInteger wrote, decodeValues, commas, back]
  rfl

/-- The lines of a block are found again, each of which has its end. -/
theorem piecesAt_block {lines : List String} (whole : ∀ line ∈ lines, '\n' ∉ line.toList) :
    piecesAt '\n' (block lines) = lines ++ [""] := by
  have ended : block lines = "\n".intercalate (lines ++ [""]) := by
    rw [block]
    clear whole
    induction lines with
    | nil => rfl
    | cons line rest inductionHypothesis =>
      rw [List.map_cons, String.join_cons, inductionHypothesis, List.cons_append,
        String.intercalate_cons_of_ne_nil (by simp)]
  rw [ended]
  refine piecesAt_intercalate (by simp) fun part member => ?_
  rcases List.mem_append.1 member with among | last
  · exact whole part among
  · rw [List.mem_singleton.1 last]
    exact List.not_mem_nil

/-- Lines tell of draws when they can be put into one text and are read there one by one. -/
def TellOf (lines : List String) (draws : Draws) : Prop :=
  (∀ line ∈ lines, '\n' ∉ line.toList) ∧ lines.mapM decodeLine = some draws

/-- What lines tell of is decoded from their block. -/
theorem TellOf.decode {lines : List String} (told : TellOf lines draws) :
    decode (block lines) = some draws := by
  obtain ⟨whole, back⟩ := told
  simp only [History.decode, piecesAt_block whole, List.getLast?_concat, List.dropLast_concat,
    if_pos, back]

/-- Lines that are put together tell of all that they tell of apart. -/
theorem TellOf.append {first second : List String} {before after : Draws}
    (left : TellOf first before) (right : TellOf second after) :
    TellOf (first ++ second) (before ++ after) := by
  constructor
  · exact List.forall_mem_append.2 ⟨left.1, right.1⟩
  · rw [List.mapM_append, left.2, right.2]
    rfl

/-- The lines of draws tell of those that have values. -/
theorem tellOf_lines {lines : List String} (stamped : ∀ c ∈ stamp.toList, c ≠ '|' ∧ c ≠ '\n')
    (versioned : ∀ c ∈ program.toList, c ≠ '|' ∧ c ≠ '\n')
    (written : History.lines draws stamp program = .ok lines) : TellOf lines (ordered draws) := by
  constructor
  · exact forall_mem_of_mapM (fun _ _ _ => notMem_of_entryLine
      (fun ended => (stamped '\n' ended).2 rfl) fun ended => (versioned '\n' ended).2 rfl) written
  · exact mapM_of_mapM (fun draw member line => decodeLine_of_entryLine
      (fun bar => (stamped '|' bar).1 rfl) (fun bar => (versioned '|' bar).1 rfl)
      (mem_ordered.1 member).2) written

/-- The decoder undoes the writing of the lines: it gives the draws that have values, by increasing
number of sides. -/
theorem decode_block {lines : List String} (stamped : ∀ c ∈ stamp.toList, c ≠ '|' ∧ c ≠ '\n')
    (versioned : ∀ c ∈ program.toList, c ≠ '|' ∧ c ≠ '\n')
    (written : History.lines draws stamp program = .ok lines) :
    decode (block lines) = some (ordered draws) :=
  (tellOf_lines stamped versioned written).decode

example : decode "1976-07-01 12:00|0.3.0|4:1\n1976-07-01 12:00|0.3.0|20:3,17\n" =
    some [(4, [1]), (20, [3, 17])] := by decide +kernel

/-- Draws of numbers that may be written have lines. -/
theorem exists_lines
    (legible : ∀ draw ∈ draws, Writable draw.1 ∧ ∀ value ∈ draw.2, Writable value) :
    ∃ written, lines draws stamp program = .ok written := by
  apply exists_mapM_iff.2
  intro draw member
  obtain ⟨sides, values⟩ := legible draw (mem_ordered.1 member).1
  obtain ⟨listed, written⟩ : ∃ listed, draw.2.mapM writeInteger = .ok listed :=
    exists_mapM_iff.2 fun value among => ⟨_, writeInteger_of_writable (values value among)⟩
  rw [entryLine, writeInteger_of_writable sides, ok_bind, written]
  exact ⟨_, rfl⟩

/-- The stamp of a moment has neither bars nor line ends. -/
theorem ne_of_mem_stamp (moment : Moment) : ∀ c ∈ moment.stamp.toList, c ≠ '|' ∧ c ≠ '\n' := by
  have digit {c : Char} (isDigit : c.isDigit = true) : c ≠ '|' ∧ c ≠ '\n' := by
    constructor <;> rintro rfl <;> cases isDigit
  have number (n : Nat) : ∀ c ∈ n.repr.toList, c ≠ '|' ∧ c ≠ '\n' := fun c member => by
    rw [Nat.toList_repr] at member
    exact digit (Nat.isDigit_of_mem_toDigits (by decide) (by decide) member)
  have two (n : Nat) : ∀ c ∈ (twoDigits n).toList, c ≠ '|' ∧ c ≠ '\n' := by
    rw [twoDigits]
    split
    · rw [String.toList_append, List.forall_mem_append]
      exact ⟨by simp, number n⟩
    · exact number n
  simp only [Moment.stamp, String.toList_append, List.forall_mem_append]
  exact ⟨⟨⟨⟨⟨⟨⟨⟨number _, by simp⟩, two _⟩, by simp⟩, two _⟩, by simp⟩, two _⟩, by simp⟩, two _⟩

/-- What the program writes of draws at any moment is read back. -/
theorem decode_block_of_moment {moment : Moment} {lines : List String}
    (written : History.lines draws moment.stamp programVersion = .ok lines) :
    decode (block lines) = some (ordered draws) :=
  decode_block (ne_of_mem_stamp moment) (by simp [programVersion]) written

end DiceTray.History
