import DiceTray.Proofs.Number.Numeral
import DiceTray.Proofs.Source.Results
import DiceTray.Source.Twister

/-!
# Reliable sources

A source is reliable for some dice when it answers every request for one of them with one of its
sides, whatever it was asked before. Rolling these dice never fails then, and what a recorder keeps
of their values may be written. Generators are reliable for all dice, and so are the sources that
always give the lowest or always the highest side.
-/

namespace DiceTray

section Completing

variable {α β σ : Type} {good : σ → Prop}

/-- From every good state the computation gives a value, and it leaves a good state. -/
def Completes (good : σ → Prop) (step : σ → Except DrawError α × σ) : Prop :=
  ∀ source, good source → ∃ value next, step source = (.ok value, next) ∧ good next

theorem completes_value (value : α) : Completes good fun source => (.ok value, source) :=
  fun source holds => ⟨value, source, rfl, holds⟩

theorem Completes.chain {first : σ → Except DrawError α × σ}
    {next : α → σ → Except DrawError β × σ} (begun : Completes good first)
    (rest : ∀ value, Completes good (next value)) : Completes good (chain first next) := by
  intro source holds
  obtain ⟨value, middle, started, still⟩ := begun source holds
  rw [DiceTray.chain, started]
  exact rest value middle still

variable [RandomSource σ] {expression : Expression}

/-- A roll completes when each draw for it does. -/
theorem completes_roll (drawn : Completes good fun source => draw source 1 expression.sides) :
    Completes good expression.roll := by
  have lockstep : Lockstep (τ := σ) expression.sides fun _ step _ => Completes good step :=
    ⟨completes_value, drawn, Completes.chain⟩
  exact lockstep.roll

end Completing

variable {σ : Type} [RandomSource σ] {good : σ → Prop} {dice : Int → Prop}

/-- As long as the property holds of its states, a source gives a side of each of the dice that it
is asked for, and the property goes on to hold. -/
def Upholds (good : σ → Prop) (dice : Int → Prop) : Prop :=
  ∀ source, good source → ∀ sides, dice sides →
    ∃ value next, draw source 1 sides = (.ok value, next) ∧ (1 ≤ value ∧ value ≤ sides) ∧ good next

/-- A source that answers all requests for some dice, one after the other, with one of their sides.
-/
def Reliable (dice : Int → Prop) (source : σ) : Prop :=
  ∃ good : σ → Prop, good source ∧ Upholds good dice

namespace Recorder

/-- All that was kept may be written. -/
def Legible (recorder : Recorder σ) : Prop :=
  ∀ sides values, recorder.kept.get? sides = some values →
    Writable sides ∧ ∀ value ∈ values, Writable value

omit [RandomSource σ] in
theorem legible_start (source : σ) : (start source).Legible := nofun

/-- What a recorder gives comes from its source and lies within the bounds. -/
theorem within_of_draw {recorder after : Recorder σ} {minimum maximum value : Int}
    (drawn : draw recorder minimum maximum = (.ok value, after)) :
    (draw recorder.inner minimum maximum).1 = .ok value ∧ minimum ≤ value ∧ value ≤ maximum := by
  obtain ⟨inner, kept⟩ := recorder
  change Recorder.next ⟨inner, kept⟩ minimum maximum = _ at drawn
  rw [Recorder.next] at drawn
  rcases given : draw inner minimum maximum with ⟨error | found, next⟩ <;> rw [given] at drawn
  · cases drawn
  · dsimp only at drawn
    split at drawn
    · next within =>
      cases drawn
      exact ⟨rfl, within⟩
    · cases drawn

/-- A recorder of a source that gives sides of the dice gives them as well, and keeps what may be
written. -/
theorem completes_draw (upheld : Upholds good dice)
    (writable : ∀ sides, dice sides → Writable sides)
    {sides : Int} (asked : dice sides) :
    Completes (fun recorder : Recorder σ => good recorder.inner ∧ recorder.Legible)
      fun recorder => draw recorder 1 sides := by
  rintro ⟨inner, kept⟩ ⟨holds, legible⟩
  obtain ⟨value, next, drawn, within, still⟩ := upheld inner holds sides asked
  refine ⟨value, ⟨next, kept.alter sides fun values => value :: values.getD []⟩, ?_, still, ?_⟩
  · change Recorder.next _ _ _ = _
    rw [Recorder.next, drawn]
    exact if_pos within
  · have writableSides := writable sides asked
    have writableValue : Writable value := by
      rw [writable_iff] at writableSides ⊢
      omega
    intro other values found
    rw [OrderedMap.get?_alter] at found
    split at found
    · next same =>
      cases same
      cases found
      refine ⟨writableSides, List.forall_mem_cons.2 ⟨writableValue, fun earlier member => ?_⟩⟩
      cases known : kept.get? sides with
      | none =>
        rw [known] at member
        cases member
      | some before =>
        rw [known] at member
        exact (legible sides before known).2 earlier member
    · exact legible other values found

end Recorder

/-- A generator answers every request that can be answered. -/
theorem Twister.exists_next {minimum maximum : Int} (some : minimum ≤ maximum)
    (generator : Twister) :
    ∃ value after, generator.next minimum maximum = (.ok value, after) ∧
      minimum ≤ value ∧ value ≤ maximum := by
  have wide : 0 < maximum + 1 - minimum := by omega
  have below : (nextBelow (maximum + 1 - minimum).toNat patience generator).1 <
      (maximum + 1 - minimum).toNat := nextBelow_lt (by omega) patience generator
  rw [Twister.next]
  generalize nextBelow (maximum + 1 - minimum).toNat patience generator = result at below ⊢
  obtain ⟨drawn, after⟩ := result
  dsimp only at below
  exact ⟨minimum + drawn, after, if_pos wide, by omega, by omega⟩

/-- A seeded generator gives a side of every die. -/
theorem reliable_seeded (positive : ∀ sides, dice sides → 1 ≤ sides) (source : Seeded) :
    Reliable dice source := by
  refine ⟨fun _ => True, trivial, fun source _ sides asked => ?_⟩
  obtain ⟨value, after, drawn, within⟩ :=
    Twister.exists_next (positive sides asked) source.generator
  refine ⟨value, ⟨after⟩, ?_, within, trivial⟩
  change ((source.generator.next 1 sides).1, (⟨(source.generator.next 1 sides).2⟩ : Seeded)) = _
  rw [drawn]

/-- A source that always gives the highest value that it may, or always the lowest. -/
structure Extreme (highest : Bool) where

instance (highest : Bool) : RandomSource (Extreme highest) where
  draw source minimum maximum := (.ok (if highest then maximum else minimum), source)
  name _ := if highest then "highest" else "lowest"

theorem reliable_extreme (positive : ∀ sides, dice sides → 1 ≤ sides) {highest : Bool}
    (source : Extreme highest) : Reliable dice source := by
  refine ⟨fun _ => True, trivial, fun source _ sides asked => ⟨_, source, rfl, ?_, trivial⟩⟩
  have enough := positive sides asked
  split <;> omega

end DiceTray
