import DiceTray.Fault
import DiceTray.Source.Recorder

/-!
# Showing lines while drawing

Computations that draw from a source and give lines. Put one behind the other they draw from the
same source, which the first leaves to the second, and their lines are put together in that order.
-/

namespace DiceTray

/-- A computation that draws from a source and gives lines. -/
def Showing (σ : Type) : Type := σ → Except Fault (List String) × σ

namespace Showing

variable {α σ : Type}

/-- Gives lines without drawing. -/
def lines (texts : List String) : Showing σ := fun source => (.ok texts, source)

/-- Fails without drawing. -/
def fails (fault : Fault) : Showing σ := fun source => (.error fault, source)

/-- Goes on with a second computation, unless the first one fails. -/
def andThen (first second : Showing σ) : Showing σ := fun source =>
  match first source with
  | (.error fault, source) => (.error fault, source)
  | (.ok above, source) =>
    match second source with
    | (.error fault, source) => (.error fault, source)
    | (.ok below, source) => (.ok (above ++ below), source)

/-- Shows something for each of some items, one behind the other. -/
def each (showing : α → Showing σ) : List α → Showing σ
  | [] => lines []
  | item :: rest => (showing item).andThen (each showing rest)

/-- Both computations succeed, the second one with the source that the first one leaves. -/
theorem andThen_eq_ok_iff {first second : Showing σ} {source after : σ} {texts : List String} :
    first.andThen second source = (.ok texts, after) ↔
      ∃ above middle below, first source = (.ok above, middle) ∧
        second middle = (.ok below, after) ∧ texts = above ++ below := by
  rw [andThen]
  rcases first source with ⟨fault | above, middle⟩
  · exact ⟨nofun, fun ⟨_, _, _, failed, _⟩ => nomatch failed⟩
  · dsimp only
    rcases later : second middle with ⟨fault | below, left⟩
    · constructor
      · exact nofun
      · rintro ⟨_, _, _, same, failed, -⟩
        cases same
        cases later.symm.trans failed
    · constructor
      · intro same
        cases same
        exact ⟨above, middle, below, rfl, later, rfl⟩
      · rintro ⟨_, _, _, same, done, rfl⟩
        cases same
        cases later.symm.trans done
        rfl

/-- Lines between two computations stand between theirs, and change nothing else. -/
theorem andThen_lines_andThen_eq_ok_iff {first second : Showing σ} {source after : σ}
    {between texts : List String} :
    first.andThen ((lines between).andThen second) source = (.ok texts, after) ↔
      ∃ above middle below, first source = (.ok above, middle) ∧
        second middle = (.ok below, after) ∧ texts = above ++ between ++ below := by
  rw [andThen_eq_ok_iff]
  constructor
  · rintro ⟨above, middle, _, done, later, rfl⟩
    obtain ⟨_, _, below, same, last, rfl⟩ := andThen_eq_ok_iff.1 later
    cases same
    exact ⟨above, middle, below, done, last, (List.append_assoc _ _ _).symm⟩
  · rintro ⟨above, middle, below, done, last, rfl⟩
    have later : (lines between).andThen second middle = (.ok (between ++ below), after) :=
      andThen_eq_ok_iff.2 ⟨between, middle, below, rfl, last, rfl⟩
    exact ⟨above, middle, between ++ below, done, later, List.append_assoc _ _ _⟩

theorem andThen_assoc (first second third : Showing σ) :
    (first.andThen second).andThen third = first.andThen (second.andThen third) := by
  funext source
  simp only [andThen]
  rcases first source with ⟨fault | above, middle⟩
  · rfl
  · dsimp only
    rcases second middle with ⟨fault | between, later⟩
    · rfl
    · dsimp only
      rcases third later with ⟨fault | below, after⟩
      · rfl
      · simp only [List.append_assoc]

@[simp] theorem lines_nil_andThen (second : Showing σ) : (lines []).andThen second = second := by
  funext source
  simp only [andThen, lines]
  rcases second source with ⟨fault | below, after⟩ <;> rfl

@[simp] theorem andThen_lines_nil (first : Showing σ) : first.andThen (lines []) = first := by
  funext source
  simp only [andThen, lines]
  rcases first source with ⟨fault | above, after⟩
  · rfl
  · simp only [List.append_nil]

theorem lines_andThen_lines (above below : List String) :
    ((lines above).andThen (lines below) : Showing σ) = lines (above ++ below) := rfl

theorem each_append (showing : α → Showing σ) (front back : List α) :
    each showing (front ++ back) = (each showing front).andThen (each showing back) := by
  induction front with
  | nil => exact (lines_nil_andThen _).symm
  | cons item rest inductionHypothesis =>
    rw [List.cons_append, each, each, inductionHypothesis, andThen_assoc]

/-- What is shown for each item decides what is shown for all. -/
theorem each_congr {showing other : α → Showing σ} {items : List α}
    (same : ∀ item ∈ items, showing item = other item) : each showing items = each other items := by
  induction items with
  | nil => rfl
  | cons item rest inductionHypothesis =>
    obtain ⟨here, later⟩ := List.forall_mem_cons.1 same
    rw [each, each, here, inductionHypothesis later]

end Showing

end DiceTray
