import DiceTray.OrderedMap
import DiceTray.Source.Basic

/-!
# Recording draws

A recorder passes requests on to another source, refuses values outside the bounds, and keeps all
others by the upper bound they were drawn for.
-/

namespace DiceTray

/-- A source together with the values it gave. -/
structure Recorder (σ : Type) where
  inner : σ
  /-- For each upper bound the values drawn, newest first. -/
  kept : OrderedMap Int (List Int)

namespace Recorder

variable {σ : Type}

/-- A recorder that has drawn nothing. -/
def start (inner : σ) : Recorder σ := ⟨inner, .empty⟩

/-- For each upper bound the values drawn, oldest first, in the order of first use. -/
def draws (recorder : Recorder σ) : List (Int × List Int) :=
  recorder.kept.entries.map fun entry => (entry.1, entry.2.reverse)

/-- Draws from the inner source and keeps the value if it lies within the bounds. -/
def next [RandomSource σ] (recorder : Recorder σ) (minimum maximum : Int) :
    Except DrawError Int × Recorder σ :=
  match recorder with
  | ⟨inner, kept⟩ =>
    match draw inner minimum maximum with
    | (.error error, inner) => (.error error, ⟨inner, kept⟩)
    | (.ok value, inner) =>
      if minimum ≤ value ∧ value ≤ maximum then
        (.ok value, ⟨inner, kept.alter maximum fun values => value :: values.getD []⟩)
      else
        (.error (.ofValue value minimum maximum), ⟨inner, kept⟩)

instance [RandomSource σ] : RandomSource (Recorder σ) where
  draw := next
  name recorder := RandomSource.name recorder.inner

end Recorder

end DiceTray
