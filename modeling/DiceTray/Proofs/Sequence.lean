import DiceTray.Journal

/-!
# Sequences of steps

When a sequence of steps that may fail succeeds. Every proof about a reader or a command takes its
steps apart with these.
-/

namespace DiceTray

/-- A step that succeeds hands its value on. -/
theorem ok_bind {ε α β : Type} (value : α) (next : α → Except ε β) :
    Except.ok value >>= next = next value := rfl

/-- After a step that fails nothing is done. -/
theorem error_bind {ε α β : Type} (error : ε) (next : α → Except ε β) :
    Except.error error >>= next = Except.error error := rfl

/-- A sequence of two steps succeeds exactly when both do. -/
theorem bind_eq_ok_iff {ε α β : Type} {first : Except ε α} {next : α → Except ε β} {result : β} :
    first >>= next = .ok result ↔ ∃ value, first = .ok value ∧ next value = .ok result := by
  cases first with
  | error error => exact ⟨nofun, fun ⟨_, failed, _⟩ => nomatch failed⟩
  | ok value =>
    constructor
    · exact fun done => ⟨value, rfl, done⟩
    · rintro ⟨_, same, done⟩
      cases same
      exact done

/-- A sequence of two steps fails with an error when the first one does, or the second one after it.
-/
theorem bind_eq_error_iff {ε α β : Type} {first : Except ε α} {next : α → Except ε β} {error : ε} :
    first >>= next = .error error ↔
      first = .error error ∨ ∃ value, first = .ok value ∧ next value = .error error := by
  cases first with
  | error failure =>
    constructor
    · intro same
      cases same
      exact .inl rfl
    · rintro (same | ⟨_, done, _⟩)
      · cases same
        rfl
      · cases done
  | ok value =>
    constructor
    · exact fun failed => .inr ⟨value, rfl, failed⟩
    · rintro (failed | ⟨_, same, failed⟩)
      · cases failed
      · cases same
        exact failed

/-- A result whose errors are reported in other words succeeds when the result does. -/
theorem mapError_eq_ok_iff {ε ε' α : Type} {result : Except ε α} {wrap : ε → ε'} {value : α} :
    result.mapError wrap = .ok value ↔ result = .ok value := by
  cases result with
  | error error => exact ⟨nofun, nofun⟩
  | ok found =>
    change Except.ok found = .ok value ↔ _
    rw [Except.ok.injEq, Except.ok.injEq]

/-- It fails when the result does, and with the error in the other words. -/
theorem mapError_eq_error_iff {ε ε' α : Type} {result : Except ε α} {wrap : ε → ε'} {error : ε'} :
    result.mapError wrap = .error error ↔ ∃ cause, result = .error cause ∧ wrap cause = error := by
  cases result with
  | ok found => exact ⟨nofun, fun ⟨_, failed, _⟩ => nomatch failed⟩
  | error cause =>
    constructor
    · exact fun same => ⟨cause, rfl, Except.error.inj same⟩
    · rintro ⟨_, same, rfl⟩
      cases same
      rfl

/-- A result of which something is kept succeeds when the result does. -/
theorem map_eq_ok_iff {ε α β : Type} {result : Except ε α} {keep : α → β} {value : β} :
    result.map keep = .ok value ↔ ∃ found, result = .ok found ∧ keep found = value := by
  cases result with
  | error error => exact ⟨nofun, fun ⟨_, failed, _⟩ => nomatch failed⟩
  | ok found =>
    constructor
    · exact fun same => ⟨found, rfl, Except.ok.inj same⟩
    · rintro ⟨_, same, rfl⟩
      cases same
      rfl

/-- It fails when the result does. -/
theorem map_eq_error_iff {ε α β : Type} {result : Except ε α} {keep : α → β} {error : ε} :
    result.map keep = .error error ↔ result = .error error := by
  cases result with
  | error failure => exact ⟨fun same => congrArg _ (Except.error.inj same),
      fun same => congrArg _ (Except.error.inj same)⟩
  | ok found => exact ⟨nofun, nofun⟩

/-- What a result is mapped to by leaving its errors as they are. -/
theorem mapError_id {ε α : Type} (result : Except ε α) : result.mapError id = result := by
  cases result <;> rfl

section Lists

variable {ε α β : Type} {step : α → Except ε β} {items : List α} {made : List β}

/-- What holds of all that a step makes of the elements of a list holds of the list that is made. -/
theorem forall_mem_of_mapM {property : β → Prop}
    (each : ∀ item ∈ items, ∀ value, step item = .ok value → property value)
    (done : items.mapM step = .ok made) : ∀ value ∈ made, property value := by
  induction items generalizing made with
  | nil =>
    cases done
    exact nofun
  | cons item rest inductionHypothesis =>
    rw [List.mapM_cons, bind_eq_ok_iff] at done
    obtain ⟨value, first, done⟩ := done
    obtain ⟨values, others, same⟩ := bind_eq_ok_iff.1 done
    cases same
    obtain ⟨here, later⟩ := List.forall_mem_cons.1 each
    exact List.forall_mem_cons.2 ⟨here value first, inductionHypothesis later others⟩

/-- What holds of all errors of a step holds of the error that ends a list. -/
theorem error_of_mapM (property : ε → Prop) {error : ε}
    (each : ∀ item ∈ items, ∀ error, step item = .error error → property error)
    (failed : items.mapM step = .error error) : property error := by
  induction items with
  | nil => cases failed
  | cons item rest inductionHypothesis =>
    obtain ⟨here, later⟩ := List.forall_mem_cons.1 each
    rw [List.mapM_cons, bind_eq_error_iff] at failed
    rcases failed with first | ⟨value, -, failed⟩
    · exact here error first
    · rcases bind_eq_error_iff.1 failed with others | ⟨values, -, same⟩
      · exact inductionHypothesis later others
      · cases same

/-- A list is made exactly when something is made of each element. -/
theorem exists_mapM_iff :
    (∃ made, items.mapM step = .ok made) ↔ ∀ item ∈ items, ∃ value, step item = .ok value := by
  induction items with
  | nil => exact iff_of_true ⟨[], rfl⟩ nofun
  | cons item rest inductionHypothesis =>
    rw [List.forall_mem_cons, ← inductionHypothesis]
    constructor
    · rintro ⟨made, done⟩
      rw [List.mapM_cons, bind_eq_ok_iff] at done
      obtain ⟨value, first, done⟩ := done
      obtain ⟨values, others, -⟩ := bind_eq_ok_iff.1 done
      exact ⟨⟨value, first⟩, values, others⟩
    · rintro ⟨⟨value, first⟩, values, others⟩
      exact ⟨value :: values, by rw [List.mapM_cons, first, others]; rfl⟩

/-- Where a step succeeds with the view of each element, a list is mapped to the views. -/
theorem mapM_eq_ok_map {view : α → β} (each : ∀ item ∈ items, step item = .ok (view item)) :
    items.mapM step = .ok (items.map view) := by
  induction items with
  | nil => rfl
  | cons item rest inductionHypothesis =>
    obtain ⟨here, later⟩ := List.forall_mem_cons.1 each
    rw [List.mapM_cons, here, inductionHypothesis later]
    rfl

/-- Where a step has one error only, a list fails with it unless all of its elements succeed. -/
theorem mapM_eq_error {error : ε}
    (only : ∀ item ∈ items, ∀ other, step item = .error other → other = error)
    (fails : ¬ ∀ item ∈ items, ∃ value, step item = .ok value) :
    items.mapM step = .error error := by
  cases result : items.mapM step with
  | ok made => exact absurd (exists_mapM_iff.1 ⟨made, result⟩) fails
  | error other => rw [error_of_mapM (· = error) only result]

/-- When the errors of a step are known for each element, the list fails with the first of them. -/
theorem mapM_eq_error_of_findSome? {error? : α → Option ε} {error : ε}
    (fails : ∀ item error, error? item = some error → step item = .error error)
    (succeeds : ∀ item, error? item = none → ∃ value, step item = .ok value)
    (first : items.findSome? error? = some error) : items.mapM step = .error error := by
  induction items with
  | nil => cases first
  | cons item rest inductionHypothesis =>
    rw [List.findSome?_cons] at first
    rw [List.mapM_cons]
    cases found : error? item with
    | some here =>
      rw [found] at first
      cases first
      rw [fails item error found]
      rfl
    | none =>
      rw [found] at first
      obtain ⟨value, done⟩ := succeeds item found
      rw [done, inductionHypothesis first]
      rfl

/-- A view under which a step keeps each element is the view of the list that is made. -/
theorem map_eq_of_mapM {view : β → α}
    (keeps : ∀ item ∈ items, ∀ value, step item = .ok value → view value = item)
    (done : items.mapM step = .ok made) : made.map view = items := by
  induction items generalizing made with
  | nil =>
    cases done
    rfl
  | cons item rest inductionHypothesis =>
    rw [List.mapM_cons, bind_eq_ok_iff] at done
    obtain ⟨value, first, done⟩ := done
    obtain ⟨values, others, same⟩ := bind_eq_ok_iff.1 done
    cases same
    obtain ⟨here, later⟩ := List.forall_mem_cons.1 keeps
    rw [List.map_cons, here value first, inductionHypothesis later others]

/-- Where a step can only succeed with one value, so it can for a list. -/
theorem eq_map_of_mapM {view : α → β}
    (only : ∀ item value, step item = .ok value → value = view item)
    (done : items.mapM step = .ok made) : made = items.map view := by
  induction items generalizing made with
  | nil =>
    cases done
    rfl
  | cons item rest inductionHypothesis =>
    rw [List.mapM_cons, bind_eq_ok_iff] at done
    obtain ⟨value, first, done⟩ := done
    obtain ⟨values, others, same⟩ := bind_eq_ok_iff.1 done
    cases same
    rw [List.map_cons, ← only item value first, ← inductionHypothesis others]

/-- Where a step is undone for each element of a list, it is undone for the list. -/
theorem mapM_of_mapM {undo : β → Option α}
    (inverse : ∀ item ∈ items, ∀ value, step item = .ok value → undo value = some item)
    (done : items.mapM step = .ok made) : made.mapM undo = some items := by
  induction items generalizing made with
  | nil =>
    cases done
    rfl
  | cons item rest inductionHypothesis =>
    rw [List.mapM_cons, bind_eq_ok_iff] at done
    obtain ⟨value, first, done⟩ := done
    obtain ⟨values, others, same⟩ := bind_eq_ok_iff.1 done
    cases same
    obtain ⟨here, later⟩ := List.forall_mem_cons.1 inverse
    rw [List.mapM_cons, here value first, inductionHypothesis later others]
    rfl

/-- Elements stand beside their views. -/
theorem zip_map_self (items : List α) (view : α → β) :
    items.zip (items.map view) = items.map fun item => (item, view item) := by
  have paired : (items.map id).zip (items.map view) = items.map fun item => (item, view item) :=
    List.zip_map'
  rwa [List.map_id] at paired

end Lists

namespace Logged

variable {ε α β : Type}

/-! What comes of a computation does not depend on its records. -/

@[simp] theorem outcome_bind (first : Logged ε α) (next : α → Logged ε β) :
    (first >>= next).outcome = first.outcome >>= fun value => (next value).outcome := by
  rcases first with ⟨journal, error | value⟩ <;> rfl

@[simp] theorem outcome_pure (value : α) : (pure value : Logged ε α).outcome = .ok value := rfl

@[simp] theorem outcome_note (record : Record) :
    (note record : Logged ε Unit).outcome = .ok () := rfl

@[simp] theorem outcome_failed (error : ε) :
    (failed error : Logged ε α).outcome = .error error := rfl

@[simp] theorem outcome_ofExcept {ε' : Type} (wrap : ε' → ε) (result : Except ε' α) :
    (ofExcept wrap result).outcome = result.mapError wrap := rfl

end Logged

end DiceTray
