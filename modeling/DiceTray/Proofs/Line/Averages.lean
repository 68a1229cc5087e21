import DiceTray.Proofs.Line.Reading
import DiceTray.Proofs.Number.Places

/-!
# Tables of averages

Averages are shown in a table with two columns. Each row is one line: a text, and from a common
column on its average with two places. The column lies two blanks behind the longest text.
-/

namespace DiceTray

variable {rows : List (String × Binary64)}

/-- A line shows a row: the text, blanks up to a width and two more, and the average. -/
def ShowsAverage (width : Nat) (row : String × Binary64) (line : String) : Prop :=
  ∃ number, Binary64.WithPlaces row.2.datum number ∧
    line = row.1 ++ String.ofList (List.replicate (width - row.1.length) ' ') ++ "  " ++ number

/-- Lines are a table of rows: one for each row, in order, with the width of the longest text. -/
structure Tabulates (rows : List (String × Binary64)) (width : Nat) (lines : List String) :
    Prop where
  shown : List.Forall₂ (ShowsAverage width) rows lines
  wide : ∀ row ∈ rows, row.1.length ≤ width
  /-- No blanks stand behind the longest text but the two between the columns. -/
  tight : rows ≠ [] → ∃ row ∈ rows, row.1.length = width

theorem tabulates_averageLines (rows : List (String × Binary64)) :
    Tabulates rows (commonWidth (rows.map Prod.fst)) (averageLines rows) where
  shown := by
    rw [averageLines, List.forall₂_map_right_iff, List.forall₂_same]
    exact fun row _ => ⟨row.2.placesText, row.2.withPlaces_placesText, rfl⟩
  wide row member := length_le_commonWidth (List.mem_map_of_mem member)
  tight some := by
    obtain ⟨text, member, width⟩ := exists_length_eq_commonWidth (mt List.map_eq_nil_iff.1 some)
    obtain ⟨row, among, rfl⟩ := List.mem_map.1 member
    exact ⟨row, among, width⟩

end DiceTray
