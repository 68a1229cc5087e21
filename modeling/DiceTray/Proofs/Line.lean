import DiceTray.Highlight
import DiceTray.Proofs.Number.Numeral
import DiceTray.Proofs.Sequence

/-!
# Lines of results

The line of a result is said in terms of the result alone. It can be made when the total and the
modifier may be written, and be shown when the dice may be as well.
-/

namespace DiceTray

variable {width : Nat} {sides : Int} {text : String}

namespace Result

/-- How a result is shown in a column of totals: its total, a text, its dice, and its modifier
unless it is zero. -/
def shown (width : Nat) (text : String) (result : Result) : String :=
  Text.padLeft width (decimal result.total) ++ fieldGap ++ text ++ fieldGap ++
    " ".intercalate (result.rolls.map decimal) ++
    (if result.modifier = 0 then "" else fieldGap ++ "(" ++ signedDecimal result.modifier ++ ")")

/-- The line of a result, whose total is padded to a width. -/
def line (width : Nat) (sides : Int) (text : String) (result : Result) : Line where
  total := Text.padLeft width (decimal result.total)
  text := text
  dice := result.rolls.map fun value => ⟨value, .ofValue value sides⟩
  modifier := if result.modifier = 0 then "" else "(" ++ signedDecimal result.modifier ++ ")"

end Result

theorem modifierField_eq_ok_iff {modifier : Int} {field : String} :
    modifierField modifier = .ok field ↔ Writable modifier ∧
      field = if modifier = 0 then "" else "(" ++ signedDecimal modifier ++ ")" := by
  rw [modifierField]
  split
  · next zero =>
    have writable : Writable modifier := zero ▸ (by decide)
    rw [and_iff_right writable, Except.ok.injEq, eq_comm]
  · next other =>
    constructor
    · intro made
      obtain ⟨signed, written, same⟩ := bind_eq_ok_iff.1 made
      cases same
      obtain ⟨writable, rfl⟩ := writeSigned_eq_ok_iff.1 written
      exact ⟨writable, rfl⟩
    · rintro ⟨writable, rfl⟩
      rw [writeSigned_of_writable writable]
      rfl

namespace Line

/-- A line can be made of a result whose total and modifier may be written, and no other line. -/
theorem ofResult_eq_ok_iff {result : Result} {line : Line} :
    ofResult width sides text result = .ok line ↔
      (Writable result.total ∧ Writable result.modifier) ∧ line = result.line width sides text := by
  constructor
  · intro made
    obtain ⟨total, summed, made⟩ := bind_eq_ok_iff.1 made
    obtain ⟨modifier, field, same⟩ := bind_eq_ok_iff.1 made
    cases same
    obtain ⟨writable, rfl⟩ := writeInteger_eq_ok_iff.1 summed
    obtain ⟨writable', rfl⟩ := modifierField_eq_ok_iff.1 field
    exact ⟨⟨writable, writable'⟩, rfl⟩
  · rintro ⟨⟨writable, writable'⟩, rfl⟩
    refine bind_eq_ok_iff.2 ⟨_, writeInteger_of_writable writable, ?_⟩
    exact bind_eq_ok_iff.2 ⟨_, modifierField_eq_ok_iff.2 ⟨writable', rfl⟩, rfl⟩

/-- A line can be shown without highlights when its dice may be written, and in one way only. -/
theorem plain_eq_ok_iff {line : Line} {shown : String} :
    line.plain = .ok shown ↔ (∀ die ∈ line.dice, Writable die.value) ∧
      shown = line.total ++ fieldGap ++ line.text ++ fieldGap ++
        " ".intercalate (line.dice.map fun die => decimal die.value) ++
        (if line.modifier.isEmpty then "" else fieldGap ++ line.modifier) := by
  constructor
  · intro plain
    obtain ⟨dice, wrote, same⟩ := bind_eq_ok_iff.1 plain
    cases same
    obtain ⟨values, listed, same⟩ := bind_eq_ok_iff.1 wrote
    cases same
    have each := exists_mapM_iff.1 ⟨values, listed⟩
    rw [eq_map_of_mapM (fun _ _ written => (writeInteger_eq_ok_iff.1 written).2) listed]
    refine ⟨fun die member => ?_, rfl⟩
    obtain ⟨value, written⟩ := each die member
    exact (writeInteger_eq_ok_iff.1 written).1
  · rintro ⟨writable, rfl⟩
    have values : (line.dice.mapM fun die => writeInteger die.value) =
        .ok (line.dice.map fun die => decimal die.value) :=
      mapM_eq_ok_map fun die member => writeInteger_of_writable (writable die member)
    rw [plain, diceText, values]
    rfl

/-- Without highlights the line of a result shows the result. -/
theorem eq_of_plain (result : Result) (shown : String)
    (plain : (result.line width sides text).plain = .ok shown) :
    shown = result.shown width text := by
  obtain ⟨-, rfl⟩ := plain_eq_ok_iff.1 plain
  rw [Result.shown, Result.line, List.map_map]
  split
  · rfl
  · rw [if_neg (by simp)]
    simp only [String.append_assoc]
    rfl

/-- The lines of results can be made when the totals and the modifiers may be written, and the
totals of all of them are then padded to the width of the longest one. -/
theorem ofResults_eq_ok_iff {results : List Result} {lines : List Line} :
    ofResults sides text results = .ok lines ↔
      (∀ result ∈ results, Writable result.total ∧ Writable result.modifier) ∧
      lines = results.map (Result.line
        (commonWidth (results.map fun result => decimal result.total)) sides text) := by
  constructor
  · intro made
    obtain ⟨totals, summed, made⟩ := bind_eq_ok_iff.1 made
    obtain rfl := eq_map_of_mapM (fun _ _ wrote => (writeInteger_eq_ok_iff.1 wrote).2) summed
    have each := exists_mapM_iff.1 ⟨lines, made⟩
    constructor
    · intro result member
      obtain ⟨line, one⟩ := each result member
      exact (ofResult_eq_ok_iff.1 one).1
    · exact eq_map_of_mapM (fun _ _ made => (ofResult_eq_ok_iff.1 made).2) made
  · rintro ⟨writable, rfl⟩
    have summed : (results.mapM fun result => writeInteger result.total) =
        .ok (results.map fun result => decimal result.total) :=
      mapM_eq_ok_map fun result member => writeInteger_of_writable (writable result member).1
    rw [ofResults, summed, ok_bind]
    exact mapM_eq_ok_map fun result member => ofResult_eq_ok_iff.2 ⟨writable result member, rfl⟩

/-- When all modifiers may be written, the lines of results can be made if each total may be. -/
theorem ofResults_cases {results : List Result}
    (modifiers : ∀ result ∈ results, Writable result.modifier) (sides : Int) (text : String) :
    ((∀ result ∈ results, Writable result.total) ∧
      ∃ width, ofResults sides text results = .ok (results.map (Result.line width sides text))) ∨
    ((¬ ∀ result ∈ results, Writable result.total) ∧
      ofResults sides text results = .error .tooLongToWrite) := by
  by_cases writable : ∀ result ∈ results, Writable result.total
  · refine .inl ⟨writable, _, ofResults_eq_ok_iff.2 ⟨fun result member => ?_, rfl⟩⟩
    exact ⟨writable result member, modifiers result member⟩
  · have fails : ¬ ∀ result ∈ results, ∃ total, writeInteger result.total = .ok total :=
      fun each => writable fun result member =>
        (each result member).elim fun total written => (writeInteger_eq_ok_iff.1 written).1
    have summed := mapM_eq_error (fun _ _ _ => eq_of_writeInteger) fails
    exact .inr ⟨writable, by rw [ofResults, summed]; rfl⟩

end Line

end DiceTray
