import DiceTray.Plan
import DiceTray.Source.Recorder

/-!
# Performances

Rolling a plan from a recorded source and showing the results. The rolls of an alias have its name
and comment above them. A fault ends the performance, and what was shown before stays.
-/

namespace DiceTray

/-- The line above the rolls of an alias: its name, and its comment unless that is empty. -/
def AliasStore.heading (store : AliasStore) (name : String) : String :=
  let comment := ((store.get? name).bind Alias.comment).getD ""
  "# " ++ name ++ if comment.isEmpty then "" else fieldGap ++ comment

/-- What was shown, newest first, and how it ended. -/
structure Performance where
  /-- The texts that were shown, newest first. -/
  shown : List String
  ending : Except Fault Unit

namespace Performance

/-- Shows lines in the colours of the roles, after those in `shown`. -/
def showLines (color : Role → Option String) (shown : List String) : List Line → Performance
  | [] => ⟨shown, .ok ()⟩
  | line :: rest =>
    match line.pieces color with
    | .error error => ⟨shown, .error (.number error)⟩
    | .ok pieces => showLines color (piecesText pieces :: shown) rest

variable {σ : Type} [RandomSource σ]

/-- The lines of a planned roll. -/
def lines (planned : PlannedRoll) (recorder : Recorder σ) :
    Except Fault (List Line) × Recorder σ :=
  match planned.expression.roll recorder with
  | (.error error, recorder) => (.error (.draw error), recorder)
  | (.ok results, recorder) =>
    ((Line.ofResults planned.expression.sides planned.text results).mapError .number, recorder)

/-- The heading of a planned roll that follows one of the argument at `previous`. The rolls of an
alias share the heading. -/
def headings (store : AliasStore) (previous : Option Nat) (planned : PlannedRoll) : List String :=
  match planned.aliasName with
  | some name => if previous = some planned.place then [] else [store.heading name]
  | none => []

/-- Rolls planned expressions in order; `previous` is the place of the argument rolled last and
`shown` what was shown so far. -/
def ofPlan (store : AliasStore) (previous : Option Nat) (shown : List String) :
    List PlannedRoll → Recorder σ → Performance × Recorder σ
  | [], recorder => (⟨shown, .ok ()⟩, recorder)
  | planned :: rest, recorder =>
    let shown := headings store previous planned ++ shown
    match lines planned recorder with
    | (.error fault, recorder) => (⟨shown, .error fault⟩, recorder)
    | (.ok lines, recorder) =>
      match showLines (fun role => some (store.color role)) shown lines with
      | ⟨shown, .error fault⟩ => (⟨shown, .error fault⟩, recorder)
      | ⟨shown, .ok ()⟩ => ofPlan store (some planned.place) shown rest recorder

end Performance

end DiceTray
