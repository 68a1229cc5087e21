import DiceTray.Proofs.Expression.RoundTrip
import DiceTray.Proofs.Text.Case

/-!
# Normalized texts

A text is read through its normalized form alone. All characters of that form are normal, so that
normalizing it again changes nothing, and texts that differ in white space and in the form of their
ASCII letters have one normalized form. What is read from two such texts is the same, or it is
reported in the same words.
-/

namespace DiceTray.Expression

open Text

/-! ## Characters of normalized texts -/

/-- What stands behind solid characters is lower-cased to normal ones. -/
theorem isNormal_of_mem_lowercaseAfter {before cs : List Char}
    (solid : ∀ c ∈ cs, isBlank c = false) : ∀ c ∈ lowercaseAfter before cs, IsNormal c := by
  induction cs generalizing before with
  | nil => nofun
  | cons c rest inductionHypothesis =>
    obtain ⟨here, later⟩ := List.forall_mem_cons.1 solid
    refine List.forall_mem_append.2 ⟨?_, inductionHypothesis later⟩
    by_cases sigma : c = '\u03A3'
    · -- either of the two small forms is normal
      rw [if_pos sigma]
      refine List.forall_mem_singleton.2 ?_
      split <;> decide +kernel
    · rw [if_neg sigma]
      exact fun _ member => settled_of_mem_lowerChar sigma here member

/-- The characters of a normalized text are normal. -/
theorem isNormal_of_mem_normalizeChars (cs : List Char) : ∀ c ∈ normalizeChars cs, IsNormal c := by
  apply isNormal_of_mem_lowercaseAfter
  intro c member
  simpa using (List.mem_filter.1 member).2

/-- A text whose characters are among those of a normalized text is normalized. -/
theorem normalizeChars_of_subset {cs text : List Char} (among : cs ⊆ normalizeChars text) :
    normalizeChars cs = cs :=
  normalizeChars_of_isNormal fun c member => isNormal_of_mem_normalizeChars text c (among member)

/-- Normal characters stay in front of whatever follows them. -/
theorem exists_normalizeChars_append {start : List Char} (normal : ∀ c ∈ start, IsNormal c)
    (rest : List Char) : ∃ more, normalizeChars (start ++ rest) = start ++ more := by
  rw [normalizeChars, List.filter_append, filter_of_isNormal normal]
  exact ⟨_, lowercaseAfter_append_of_isNormal [] normal _⟩

/-! ## Texts of one normalized form -/

/-- One text is another one with white space put in and with the other form of some of its ASCII
letters. -/
inductive Respelled : List Char → List Char → Prop
  | nil : Respelled [] []
  /-- White space is put in. -/
  | blank {c : Char} {cs ds : List Char} (white : isBlank c = true) (others : Respelled cs ds) :
    Respelled cs (c :: ds)
  /-- A character stays, or a letter has its other form. -/
  | letter {c d : Char} {cs ds : List Char} (same : c.toLower = d.toLower)
    (others : Respelled cs ds) : Respelled (c :: cs) (d :: ds)

/-- Without their white space, both texts have the same letters. -/
theorem Respelled.caseTwins {cs ds : List Char} (respelled : Respelled cs ds) :
    List.Forall₂ CaseTwins (cs.filter fun c => !isBlank c) (ds.filter fun c => !isBlank c) := by
  induction respelled with
  | nil => exact .nil
  | blank white _ inductionHypothesis =>
    rwa [List.filter_cons_of_neg (by simp [white])]
  | @letter c d cs ds same _ inductionHypothesis =>
    have twins := CaseTwins.of_toLower_eq same
    cases white : isBlank c with
    | true =>
      have white' := twins.blank.symm.trans white
      rwa [List.filter_cons_of_neg (by simp [white]), List.filter_cons_of_neg (by simp [white'])]
    | false =>
      have solid' := twins.blank.symm.trans white
      rw [List.filter_cons_of_pos (by simp [white]), List.filter_cons_of_pos (by simp [solid'])]
      exact .cons twins inductionHypothesis

theorem normalizeChars_of_respelled {cs ds : List Char} (respelled : Respelled cs ds) :
    normalizeChars ds = normalizeChars cs :=
  (lowercaseAfter_congr .nil respelled.caseTwins).symm

end DiceTray.Expression

namespace DiceTray

/-- The same error, had the text been given as `source`. -/
def ExpressionError.givenAs (source : String) : ExpressionError → ExpressionError
  | .malformed error => .malformed { error with source }
  | .number error => .number error

namespace Expression

/-- Two texts are read alike: either gives what the other gives, but for the text as it was given
in a report, and the wording of the report is the same. -/
structure ReadAlike (text other : String) : Prop where
  outcome : parse other = (parse text).mapError (ExpressionError.givenAs other)
  wording : (parse other).mapError ExpressionError.message =
    (parse text).mapError ExpressionError.message

/-- Texts with one normalized form are read alike. -/
theorem readAlike_of_normalizeChars_eq {text other : String}
    (same : normalizeChars other.toList = normalizeChars text.toList) : ReadAlike text other := by
  have reports (stop : Stop) : report other (normalizeChars text.toList) stop =
      (report text (normalizeChars text.toList) stop).givenAs other := by
    cases stop <;> rfl
  constructor
  all_goals
    rw [parse, parse, same]
    rcases readChars (normalizeChars text.toList) with stop | expression
  · exact congrArg Except.error (reports stop)
  · rfl
  · cases stop <;> rfl
  · rfl

/-- What comes of a text depends on its normalized form alone. Normalizing twice is normalizing
once. A text and its normalized form are read alike, as the same expression or with the same report
but for the text as it was given; and so are a text and what it becomes when white space is put in
anywhere and any of its ASCII letters change their form. -/
theorem normal_text_decides_outcome (text : String) :
    normalize (normalize text) = normalize text ∧ ReadAlike text (normalize text) ∧
      ∀ other : String, Respelled text.toList other.toList →
        normalize other = normalize text ∧ ReadAlike text other := by
  have twice : normalizeChars (normalize text).toList = normalizeChars text.toList := by
    rw [normalize, String.toList_ofList]
    exact normalizeChars_of_subset (List.Subset.refl _)
  refine ⟨congrArg String.ofList twice, readAlike_of_normalizeChars_eq twice, ?_⟩
  intro other respelled
  have same := normalizeChars_of_respelled respelled
  exact ⟨congrArg String.ofList same, readAlike_of_normalizeChars_eq same⟩

/-- A malformed text in capital letters, and the same text spread out in small ones: the sigma stays
that of a word's end. -/
theorem normal_text_decides_outcome_of_spread_text :
    Respelled "2DOΣR".toList "2 doΣ\tr ".toList ∧ normalize "2 doΣ\tr " = normalize "2DOΣR" ∧
      parse "2 doΣ\tr " = (parse "2DOΣR").mapError (ExpressionError.givenAs "2 doΣ\tr ") := by
  have respelled : Respelled "2DOΣR".toList "2 doΣ\tr ".toList := by
    refine .letter rfl (.blank (by decide) ?_)
    refine .letter (by decide) (.letter (by decide) (.letter rfl (.blank (by decide) ?_)))
    exact .letter (by decide) (.blank (by decide) .nil)
  obtain ⟨same, alike⟩ := (normal_text_decides_outcome "2DOΣR").2.2 _ respelled
  exact ⟨respelled, same, alike.outcome⟩

end Expression

end DiceTray
