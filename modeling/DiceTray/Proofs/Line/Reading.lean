import DiceTray.Proofs.Line
import DiceTray.Proofs.Text.Pieces
import Mathlib.Data.List.Forall2

/-!
# Reading lines

The lines of a batch stand in columns and can be read back. Padding, the gaps between fields and the
gaps between dice are all made of blanks, but no field holds two blanks side by side or ends with
one, as long as the text that was rolled does not. So the double blanks behind the padding are the
gaps, and what stands between them tells the whole result.
-/

namespace DiceTray

section Width

variable {text : String} {texts : List String}

theorem commonWidth_cons (text : String) (texts : List String) :
    commonWidth (text :: texts) = max text.length (commonWidth texts) := by
  have from_max (start : Nat) : texts.foldl (fun width text => max width text.length) start =
      max start (commonWidth texts) := by
    rw [commonWidth]
    induction texts generalizing start with
    | nil => simp
    | cons next rest inductionHypothesis =>
      rw [List.foldl_cons, List.foldl_cons, inductionHypothesis, inductionHypothesis (max 0 _)]
      omega
  rw [commonWidth, List.foldl_cons, from_max, Nat.zero_max]

theorem length_le_commonWidth (member : text ∈ texts) : text.length ≤ commonWidth texts := by
  induction texts with
  | nil => cases member
  | cons first rest inductionHypothesis =>
    rw [commonWidth_cons]
    rcases List.mem_cons.1 member with rfl | later
    · exact Nat.le_max_left _ _
    · exact Nat.le_trans (inductionHypothesis later) (Nat.le_max_right _ _)

/-- The common width is that of one of the texts. -/
theorem exists_length_eq_commonWidth (present : texts ≠ []) :
    ∃ text ∈ texts, text.length = commonWidth texts := by
  induction texts with
  | nil => exact absurd rfl present
  | cons first rest inductionHypothesis =>
    rw [commonWidth_cons]
    by_cases longest : commonWidth rest ≤ first.length
    · exact ⟨first, List.mem_cons_self, by omega⟩
    · have others : rest ≠ [] := by
        rintro rfl
        exact longest (Nat.zero_le _)
      obtain ⟨text, member, width⟩ := inductionHypothesis others
      exact ⟨text, List.mem_cons_of_mem _ member, by omega⟩

theorem length_padLeft {width : Nat} (fits : text.length ≤ width) :
    (Text.padLeft width text).length = width := by
  rw [Text.padLeft, String.length_append, String.length_ofList, List.length_replicate]
  omega

theorem padLeft_of_length {width : Nat} (fills : text.length = width) :
    Text.padLeft width text = text := by
  rw [Text.padLeft, fills, Nat.sub_self]
  simp

end Width

theorem blank_notMem_decimal (n : Int) : ' ' ∉ (decimal n).toList :=
  notMem_decimal (by decide) (by decide) n

theorem blank_notMem_signedDecimal (n : Int) : ' ' ∉ (signedDecimal n).toList :=
  notMem_signedDecimal (by decide) (by decide) n

namespace Result

variable {text : String} {result other : Result}

/-- All integers of a result may be written. -/
structure Legible (result : Result) : Prop where
  total : Writable result.total
  modifier : Writable result.modifier
  rolls : ∀ value ∈ result.rolls, Writable value

/-- The fields that tell of a result: its total, the text that was rolled, its dice with single
blanks between them, and its modifier with a sign, unless it is zero. -/
def fields (text : String) (result : Result) : List String :=
  [decimal result.total, text, " ".intercalate (result.rolls.map decimal)] ++
    if result.modifier = 0 then [] else ["(" ++ signedDecimal result.modifier ++ ")"]

/-- The fields stand behind the padding with gaps between them. -/
theorem shown_eq_intercalate (width : Nat) (text : String) (result : Result) :
    result.shown width text =
      String.ofList (List.replicate (width - (decimal result.total).length) ' ') ++
        fieldGap.intercalate (result.fields text) := by
  rw [shown, fields, Text.padLeft]
  split
  · simp [String.intercalate_cons_cons, String.append_assoc]
  · simp [String.intercalate_cons_cons, String.append_assoc]

theorem unbroken_fields (unbroken : Unbroken text.toList) :
    ∀ field ∈ result.fields text, Unbroken field.toList := by
  have dice : Unbroken (" ".intercalate (result.rolls.map decimal)).toList := by
    rw [String.toList_intercalate]
    apply unbroken_intercalate
    simp only [List.map_map, List.forall_mem_map, Function.comp_apply]
    exact fun value _ => ⟨by simp [decimal_ne_empty], blank_notMem_decimal value⟩
  have modifier : Unbroken ("(" ++ signedDecimal result.modifier ++ ")").toList := by
    apply unbroken_of_notMem
    simp [blank_notMem_signedDecimal]
  have total := unbroken_of_notMem (blank_notMem_decimal result.total)
  rw [fields]
  split
  · simp only [List.append_nil, List.forall_mem_cons]
    exact ⟨total, unbroken, dice, nofun⟩
  · simp only [List.cons_append, List.nil_append, List.forall_mem_cons]
    exact ⟨total, unbroken, dice, modifier, nofun⟩

/-- Different results, or different texts, have different fields. -/
theorem fields_injective {text' : String} (same : result.fields text = other.fields text') :
    result = other ∧ text = text' := by
  rw [fields, fields] at same
  obtain ⟨totals, rest⟩ := List.cons.inj same
  obtain ⟨texts, rest⟩ := List.cons.inj rest
  obtain ⟨dice, modifiers⟩ := List.cons.inj rest
  refine ⟨?_, texts⟩
  have solid (some : Result) : ∀ part ∈ some.rolls.map decimal, part ≠ "" ∧ ' ' ∉ part.toList :=
    List.forall_mem_map.2 fun value _ => ⟨decimal_ne_empty value, blank_notMem_decimal value⟩
  have rolls : result.rolls = other.rolls :=
    List.map_injective_iff.2 decimal_injective (eq_of_intercalate_eq (solid _) (solid _) dice)
  have modifier : result.modifier = other.modifier := by
    by_cases zero : result.modifier = 0 <;> by_cases zero' : other.modifier = 0
    · rw [zero, zero']
    · simp [zero, zero'] at modifiers
    · simp [zero, zero'] at modifiers
    · rw [if_neg zero, if_neg zero'] at modifiers
      apply signedDecimal_injective
      simpa [← String.toList_inj] using modifiers
  have total := decimal_injective totals
  cases result
  cases other
  simp_all

end Result

namespace Line

variable {width : Nat} {text : String} {result : Result} {line : Line}

/-- The fields that are read from a shown line: behind the blanks that it begins with, what stands
between double blanks. -/
def fields (shown : String) : List String :=
  (partsFrom [] (shown.toList.dropWhile (· = ' '))).map String.ofList

/-- The fields of a result are read from the line that shows it. -/
theorem fields_shown (unbroken : Unbroken text.toList) (width : Nat) (result : Result) :
    fields (result.shown width text) = result.fields text := by
  obtain ⟨c, cs, solid, begins⟩ : ∃ c cs, c ≠ ' ' ∧
      [' ', ' '].intercalate ((result.fields text).map String.toList) = c :: cs := by
    rw [Result.fields, List.cons_append, List.map_cons]
    exact exists_solid_head (by simp [decimal_ne_empty]) (blank_notMem_decimal _) _ _
  have parts : partsFrom [] ([' ', ' '].intercalate ((result.fields text).map String.toList)) =
      (result.fields text).map String.toList := by
    apply partsFrom_intercalate
    · simp [Result.fields]
    · exact List.forall_mem_map.2 (Result.unbroken_fields unbroken)
  have behind : (result.shown width text).toList.dropWhile (· = ' ') =
      [' ', ' '].intercalate ((result.fields text).map String.toList) := by
    rw [Result.shown_eq_intercalate, String.toList_append, String.toList_ofList,
      List.dropWhile_append_of_pos (by simp), String.toList_intercalate]
    change List.dropWhile _ ([' ', ' '].intercalate _) = _
    rw [begins, List.dropWhile_cons_of_neg (by simpa using solid)]
  rw [fields, behind, parts, List.map_map]
  simp [Function.comp_def]

/-- A line can be shown when the dice of its result may be written. -/
theorem plain_of_legible (legible : result.Legible) (width : Nat) (sides : Int) (text : String) :
    (result.line width sides text).plain = .ok (result.shown width text) := by
  have shown : (result.line width sides text).plain = .ok _ :=
    plain_eq_ok_iff.2 ⟨List.forall_mem_map.2 legible.rolls, rfl⟩
  rw [shown, eq_of_plain result _ shown]

/-- A line shows a result in a column of totals: its total is padded to the width of the column, and
the fields of the result are read from the whole line. -/
structure Shows (width : Nat) (text : String) (result : Result) (line : Line) : Prop where
  total : line.total = Text.padLeft width (decimal result.total)
  width : line.total.length = width
  read : ∃ shown, line.plain = .ok shown ∧ fields shown = result.fields text

/-- From one line only one result is read, and only one text. -/
theorem Shows.unique {width' : Nat} {text' : String} {result' : Result} {line' : Line}
    (shows : Shows width text result line) (shows' : Shows width' text' result' line')
    (same : line.plain = line'.plain) : result = result' ∧ text = text' := by
  obtain ⟨shown, plain, read⟩ := shows.read
  obtain ⟨shown', plain', read'⟩ := shows'.read
  rw [plain, plain'] at same
  cases same
  exact Result.fields_injective (read.symm.trans read')

theorem shows_line (unbroken : Unbroken text.toList) (legible : result.Legible)
    (fits : (decimal result.total).length ≤ width) (sides : Int) :
    Shows width text result (result.line width sides text) where
  total := rfl
  width := length_padLeft fits
  read := ⟨_, plain_of_legible legible width sides text, fields_shown unbroken width result⟩

variable {sides : Int} {results : List Result} {lines : List Line}

/-- The lines of a batch show its results one by one, in one column. -/
theorem shows_of_ofResults (unbroken : Unbroken text.toList)
    (legible : ∀ result ∈ results, result.Legible)
    (made : ofResults sides text results = .ok lines) :
    List.Forall₂ (Shows (commonWidth (results.map fun result => decimal result.total)) text) results
      lines := by
  obtain ⟨-, rfl⟩ := ofResults_eq_ok_iff.1 made
  rw [List.forall₂_map_right_iff, List.forall₂_same]
  intro result member
  apply shows_line unbroken (legible result member)
  exact length_le_commonWidth (List.mem_map.2 ⟨result, member, rfl⟩)

/-- Lines are aligned and can be read back. For results of integers that may be written, and a text
that neither holds two blanks side by side nor ends with one, there is a line for each result, in
order. The totals of all lines have the width of the longest one, which is not padded. From each
line the total, the text, the dice and the modifier of its result are read, so that lines of
different results or texts are different, also when they come from different batches. -/
theorem ofResults_readable (sides : Int) (text : String) (results : List Result)
    (unbroken : Unbroken text.toList) (legible : ∀ result ∈ results, result.Legible) :
    ∃ lines width, ofResults sides text results = .ok lines ∧
      List.Forall₂ (Shows width text) results lines ∧
      (∀ result ∈ results, (decimal result.total).length ≤ width) ∧
      (results ≠ [] → ∃ pair ∈ results.zip lines, pair.2.total = decimal pair.1.total) ∧
      ∀ (sides' : Int) (text' : String) (results' : List Result) (lines' : List Line),
        Unbroken text'.toList → (∀ result ∈ results', result.Legible) →
        ofResults sides' text' results' = .ok lines' →
        ∀ pair ∈ results.zip lines, ∀ pair' ∈ results'.zip lines',
          pair.2.plain = pair'.2.plain → pair.1 = pair'.1 ∧ text = text' := by
  have made : ofResults sides text results = .ok _ := ofResults_eq_ok_iff.2
    ⟨fun result member => ⟨(legible result member).total, (legible result member).modifier⟩, rfl⟩
  have shows := shows_of_ofResults unbroken legible made
  refine ⟨_, _, made, shows, ?_, ?_, ?_⟩
  · intro result member
    exact length_le_commonWidth (List.mem_map.2 ⟨result, member, rfl⟩)
  · intro present
    have totals : (results.map fun result => decimal result.total) ≠ [] := by simpa using present
    obtain ⟨total, among, longest⟩ := exists_length_eq_commonWidth totals
    obtain ⟨result, member, rfl⟩ := List.mem_map.1 among
    rw [zip_map_self]
    exact ⟨_, List.mem_map.2 ⟨result, member, rfl⟩, padLeft_of_length longest⟩
  · intro sides' text' results' lines' unbroken' legible' made' pair member pair' member' same
    have first := (List.forall₂_iff_zip.1 shows).2 member
    have second := (List.forall₂_iff_zip.1 (shows_of_ofResults unbroken' legible' made')).2 member'
    exact first.unique second same

/-- Two rolls of two dice, of which the first has the longer total. -/
def twoResults : List Result := [⟨[5, 6], 1, 12⟩, ⟨[1, 1], 1, 3⟩]

theorem ofResults_readable_of_two :
    ∃ lines width, ofResults 6 "two d6 + 1" twoResults = .ok lines ∧
      List.Forall₂ (Shows width "two d6 + 1") twoResults lines ∧
      lines.map plain = [.ok "12  two d6 + 1  5 6  (+1)", .ok " 3  two d6 + 1  1 1  (+1)"] ∧
      fields " 3  two d6 + 1  1 1  (+1)" = ["3", "two d6 + 1", "1 1", "(+1)"] := by
  have unbroken : Unbroken "two d6 + 1".toList := ⟨by decide, by decide⟩
  have legible : ∀ result ∈ twoResults, result.Legible := by
    intro result member
    constructor <;> revert result <;> decide +kernel
  obtain ⟨lines, width, made, shows, -⟩ :=
    ofResults_readable 6 "two d6 + 1" twoResults unbroken legible
  have written : ofResults 6 "two d6 + 1" twoResults =
      .ok (twoResults.map (Result.line 2 6 "two d6 + 1")) := by decide +kernel
  have same := Except.ok.inj (made.symm.trans written)
  refine ⟨lines, width, made, shows, ?_, ?_⟩
  · rw [same]
    decide +kernel
  · decide +kernel

end Line

end DiceTray
