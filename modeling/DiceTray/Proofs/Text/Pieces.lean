import Mathlib.Data.List.Infix

/-!
# Texts that are put together and taken apart

Parts that are put together with a separator between them are found again when the separator stands
in none of them. For a separator of two blanks, parts may hold single blanks: it is enough that no
part holds two of them side by side or ends with one.
-/

namespace DiceTray

section Pieces

/-- The parts of a text between separators. -/
def piecesAt (separator : Char) (text : String) : List String :=
  (text.toList.splitOn separator).map String.ofList

/-- Parts without separators are found again. -/
theorem piecesAt_intercalate {separator : Char} {parts : List String} (present : parts ≠ [])
    (unparted : ∀ part ∈ parts, separator ∉ part.toList) :
    piecesAt separator ((String.singleton separator).intercalate parts) = parts := by
  have cut : ([separator].intercalate (parts.map String.toList)).splitOn separator =
      parts.map String.toList :=
    List.splitOn_intercalate separator (by simpa using unparted) (by simpa using present)
  rw [piecesAt, String.toList_intercalate, String.toList_singleton, cut, List.map_map]
  simp [Function.comp_def]

/-- A character that stands neither in texts nor between them does not stand in what they are put
together to. -/
theorem notMem_intercalate {between : String} {parts : List String} {c : Char}
    (apart : c ∉ between.toList) (absent : ∀ part ∈ parts, c ∉ part.toList) :
    c ∉ (between.intercalate parts).toList := by
  induction parts with
  | nil => simp
  | cons part rest inductionHypothesis =>
    obtain ⟨here, later⟩ := List.forall_mem_cons.1 absent
    cases rest with
    | nil => simpa using here
    | cons next rest =>
      rw [String.intercalate_cons_cons, String.toList_append, String.toList_append, List.mem_append,
        List.mem_append, not_or, not_or]
      exact ⟨⟨here, apart⟩, inductionHypothesis later⟩

/-- What stands neither in two parts nor between them does not stand in what they make up. -/
theorem notMem_pair {between first second : String} {c : Char} (apart : c ∉ between.toList)
    (before : c ∉ first.toList) (behind : c ∉ second.toList) :
    c ∉ (between.intercalate [first, second]).toList :=
  notMem_intercalate apart (by simpa using ⟨before, behind⟩)

/-- Two parts without the separator between them are found again. -/
theorem piecesAt_pair {separator : Char} {first second : String} (before : separator ∉ first.toList)
    (behind : separator ∉ second.toList) :
    piecesAt separator ((String.singleton separator).intercalate [first, second]) =
      [first, second] :=
  piecesAt_intercalate (List.cons_ne_nil _ _) (by simpa using ⟨before, behind⟩)

/-- Different parts, none of which is empty or holds the separator, make up different texts. -/
theorem eq_of_intercalate_eq {separator : Char} {parts others : List String}
    (unparted : ∀ part ∈ parts, part ≠ "" ∧ separator ∉ part.toList)
    (unparted' : ∀ part ∈ others, part ≠ "" ∧ separator ∉ part.toList)
    (same : (String.singleton separator).intercalate parts =
      (String.singleton separator).intercalate others) : parts = others := by
  have found {these : List String} (solid : ∀ part ∈ these, part ≠ "" ∧ separator ∉ part.toList) :
      (piecesAt separator ((String.singleton separator).intercalate these)).filter (· ≠ "") =
        these := by
    cases these with
    | nil => rfl
    | cons first rest =>
      rw [piecesAt_intercalate (List.cons_ne_nil _ _) fun part member => (solid part member).2]
      exact List.filter_eq_self.2 fun part member => decide_eq_true (solid part member).1
  rw [← found unparted, same, found unparted']

end Pieces

section Gaps

/-- The parts of a text between double blanks, found from the left, where `part` is what was read of
the current one. -/
def partsFrom (part : List Char) : List Char → List (List Char)
  | [] => [part]
  | ' ' :: ' ' :: rest => part :: partsFrom [] rest
  | c :: rest => partsFrom (part ++ [c]) rest

/-- A text that does not hold two blanks side by side and does not end with one. -/
structure Unbroken (cs : List Char) : Prop where
  single : ¬ [' ', ' '] <:+: cs
  last : cs.getLast? ≠ some ' '

variable {c : Char} {cs part rest : List Char}

theorem Unbroken.tail (unbroken : Unbroken (c :: cs)) : Unbroken cs where
  single within := unbroken.single (List.infix_cons within)
  last := by
    intro ends
    apply unbroken.last
    rw [List.getLast?_cons, ends]
    rfl

/-- A character before an unbroken text may be a blank when the text begins with something else. -/
theorem Unbroken.cons (unbroken : Unbroken cs)
    (apart : c ≠ ' ' ∨ ∃ d ds, d ≠ ' ' ∧ cs = d :: ds) : Unbroken (c :: cs) where
  single := by
    intro within
    rcases List.infix_cons_iff.1 within with front | behind
    · obtain ⟨rfl, blank⟩ := List.cons_prefix_cons.1 front
      rcases apart with solid | ⟨d, ds, solid, rfl⟩
      · exact solid rfl
      · exact solid (List.cons_prefix_cons.1 blank).1.symm
    · exact unbroken.single behind
  last := by
    intro ends
    rcases apart with solid | ⟨d, ds, solid, rfl⟩
    · cases cs with
      | nil => exact solid (Option.some.inj ends)
      | cons d ds => exact unbroken.last (by rwa [List.getLast?_cons_cons] at ends)
    · exact unbroken.last (by rwa [List.getLast?_cons_cons] at ends)

/-- What parts make up begins as the first part does, which here is not with a blank. -/
theorem exists_solid_head (present : part ≠ []) (solid : ' ' ∉ part) (between : List Char)
    (others : List (List Char)) :
    ∃ d ds, d ≠ ' ' ∧ between.intercalate (part :: others) = d :: ds := by
  obtain ⟨d, ds, rfl⟩ := List.exists_cons_of_ne_nil present
  have apart : d ≠ ' ' := fun blank => solid (blank ▸ List.mem_cons_self)
  cases others with
  | nil => exact ⟨d, ds, apart, List.intercalate_singleton⟩
  | cons next rest =>
    exact ⟨d, ds ++ between ++ between.intercalate (next :: rest), apart,
      List.intercalate_cons_cons⟩

theorem unbroken_nil : Unbroken [] := ⟨by simp, by simp⟩

/-- A text without blanks may stand before an unbroken one. -/
theorem Unbroken.append_left (unbroken : Unbroken rest) (solid : ' ' ∉ cs) :
    Unbroken (cs ++ rest) := by
  induction cs with
  | nil => exact unbroken
  | cons c cs inductionHypothesis =>
    rw [List.mem_cons, not_or] at solid
    exact (inductionHypothesis solid.2).cons (.inl (Ne.symm solid.1))

theorem unbroken_of_notMem (solid : ' ' ∉ cs) : Unbroken cs := by
  have unbroken := unbroken_nil.append_left solid
  rwa [List.append_nil] at unbroken

/-- Parts without blanks, none of them empty, make up an unbroken text when single blanks stand
between them. -/
theorem unbroken_intercalate {parts : List (List Char)}
    (solid : ∀ part ∈ parts, part ≠ [] ∧ ' ' ∉ part) : Unbroken ([' '].intercalate parts) := by
  induction parts with
  | nil => exact unbroken_nil
  | cons part rest inductionHypothesis =>
    obtain ⟨here, later⟩ := List.forall_mem_cons.1 solid
    have behind := inductionHypothesis later
    cases rest with
    | nil => simpa using unbroken_of_notMem here.2
    | cons next rest =>
      rw [List.intercalate_cons_cons, List.append_assoc]
      apply Unbroken.append_left _ here.2
      obtain ⟨present, absent⟩ := later next List.mem_cons_self
      exact behind.cons (.inr (exists_solid_head present absent [' '] rest))

/-- Where no double blank begins, the current part goes on. -/
theorem partsFrom_cons (goesOn : ¬ [' ', ' '] <+: c :: rest) :
    partsFrom part (c :: rest) = partsFrom (part ++ [c]) rest := by
  rw [partsFrom]
  rintro others rfl rfl
  exact goesOn ⟨others, rfl⟩

/-- An unbroken text goes to the current part as a whole. -/
theorem partsFrom_append (unbroken : Unbroken cs) (part rest : List Char) :
    partsFrom part (cs ++ rest) = partsFrom (part ++ cs) rest := by
  induction cs generalizing part with
  | nil => rw [List.nil_append, List.append_nil]
  | cons c cs inductionHypothesis =>
    have goesOn : ¬ [' ', ' '] <+: c :: (cs ++ rest) := by
      intro front
      obtain ⟨rfl, blank⟩ := List.cons_prefix_cons.1 front
      cases cs with
      | nil => exact unbroken.last rfl
      | cons d ds =>
        obtain ⟨rfl, -⟩ := List.cons_prefix_cons.1 blank
        exact unbroken.single ⟨[], ds, rfl⟩
    rw [List.cons_append, partsFrom_cons goesOn, inductionHypothesis unbroken.tail,
      List.append_assoc, List.singleton_append]

/-- Unbroken parts are found again between double blanks. -/
theorem partsFrom_intercalate {parts : List (List Char)} (present : parts ≠ [])
    (unbroken : ∀ part ∈ parts, Unbroken part) :
    partsFrom [] ([' ', ' '].intercalate parts) = parts := by
  induction parts with
  | nil => exact absurd rfl present
  | cons part rest inductionHypothesis =>
    obtain ⟨here, later⟩ := List.forall_mem_cons.1 unbroken
    have first (behind : List Char) : partsFrom [] (part ++ behind) = partsFrom part behind :=
      partsFrom_append here [] behind
    cases rest with
    | nil =>
      have last := first []
      rw [List.append_nil] at last
      rw [List.intercalate_singleton, last, partsFrom]
    | cons next rest =>
      have others := inductionHypothesis (List.cons_ne_nil _ _) later
      rw [List.intercalate_cons_cons, List.append_assoc, first, List.cons_append, List.cons_append,
        List.nil_append, partsFrom, others]

end Gaps

end DiceTray
