import DiceTray.Proofs.History.Ordering
import DiceTray.Proofs.Source.Chaining

/-!
# Replays

What is rolled from a source depends on nothing but its answers, so it comes out the same from every
source that gives the same answers in the same order. Keeping the answers by their upper bounds
loses nothing of that: a source that hands out what a recorder kept answers every request as before,
and when it has answered all of them nothing is left.
-/

namespace DiceTray

/-- A request and the value that was given. -/
structure Answer where
  minimum : Int
  maximum : Int
  value : Int

/-- The values given for an upper bound, in order. -/
def valuesFor (bound : Int) (trace : List Answer) : List Int :=
  (trace.filter fun answer => answer.maximum = bound).map Answer.value

theorem valuesFor_cons (bound : Int) (answer : Answer) (rest : List Answer) :
    valuesFor bound (answer :: rest) =
      (if answer.maximum = bound then [answer.value] else []) ++ valuesFor bound rest := by
  rw [valuesFor, List.filter_cons]
  by_cases here : answer.maximum = bound <;> simp [here, valuesFor]

section Mirrors

variable {α β σ τ : Type} [RandomSource σ] [RandomSource τ]

/-- A source gives answers one after the other and is left in a state. -/
def Answers (source : σ) : List Answer → σ → Prop
  | [], after => source = after
  | answer :: rest, after =>
    ∃ next, draw source answer.minimum answer.maximum = (.ok answer.value, next) ∧
      Answers next rest after

theorem answers_append_iff {source after : σ} {first second : List Answer} :
    Answers source (first ++ second) after ↔
      ∃ middle, Answers source first middle ∧ Answers middle second after := by
  induction first generalizing source with
  | nil => simp [Answers]
  | cons answer rest inductionHypothesis =>
    simp only [List.cons_append, Answers, inductionHypothesis]
    constructor
    · rintro ⟨next, drawn, middle, before, later⟩
      exact ⟨middle, ⟨next, drawn, before⟩, later⟩
    · rintro ⟨middle, ⟨next, drawn, before⟩, later⟩
      exact ⟨next, drawn, middle, before, later⟩

/-- Whenever the first computation succeeds, the second one does so in the same way with every
source that gives the same answers, and takes no others from it. -/
def Mirrors (live : σ → Except DrawError α × σ) (again : τ → Except DrawError α × τ) : Prop :=
  ∀ source value after, live source = (.ok value, after) →
    ∃ trace, Answers source trace after ∧
      ∀ other remaining, Answers other trace remaining → again other = (.ok value, remaining)

theorem mirrors_value (value : α) :
    Mirrors (fun source : σ => (.ok value, source)) fun other : τ => (.ok value, other) := by
  intro source found after same
  cases same
  exact ⟨[], rfl, fun other remaining same => same ▸ rfl⟩

theorem mirrors_draw (minimum maximum : Int) :
    Mirrors (fun source : σ => draw source minimum maximum)
      fun other : τ => draw other minimum maximum := by
  intro source value after drawn
  refine ⟨[⟨minimum, maximum, value⟩], ⟨after, drawn, rfl⟩, ?_⟩
  rintro other remaining ⟨next, given, rfl⟩
  exact given

theorem Mirrors.chain {first : σ → Except DrawError α × σ} {first' : τ → Except DrawError α × τ}
    {next : α → σ → Except DrawError β × σ} {next' : α → τ → Except DrawError β × τ}
    (begun : Mirrors first first') (rest : ∀ value, Mirrors (next value) (next' value)) :
    Mirrors (chain first next) (chain first' next') := by
  intro source result after done
  cases start : first source with
  | mk outcome middle =>
    rw [DiceTray.chain, start] at done
    cases outcome with
    | error error => cases done
    | ok value =>
      obtain ⟨trace, given, again⟩ := begun source value middle start
      obtain ⟨others, later, follows⟩ := rest value middle result after done
      refine ⟨trace ++ others, answers_append_iff.2 ⟨middle, given, later⟩,
        fun other remaining all => ?_⟩
      obtain ⟨between, before, behind⟩ := answers_append_iff.1 all
      rw [DiceTray.chain, again other between before]
      exact follows between remaining behind

theorem lockstep_mirrors (sides : Int) :
    Lockstep (σ := σ) (τ := τ) sides fun _ => Mirrors where
  value := mirrors_value
  draw := mirrors_draw 1 sides
  chain := Mirrors.chain

theorem Expression.mirrors_roll (expression : Expression) :
    Mirrors (σ := σ) (τ := τ) expression.roll expression.roll :=
  (lockstep_mirrors expression.sides).roll

end Mirrors

namespace Recorder

variable {σ : Type}

/-- The values kept for an upper bound, in the order in which they were drawn. -/
def valuesFor (recorder : Recorder σ) (bound : Int) : List Int :=
  ((recorder.kept.get? bound).getD []).reverse

/-- The draws are the values kept, oldest first. -/
theorem lookup_draws_eq_map (recorder : Recorder σ) (bound : Int) :
    recorder.draws.lookup bound = (recorder.kept.get? bound).map List.reverse := by
  rw [draws, OrderedMap.get?]
  induction recorder.kept.entries with
  | nil => rfl
  | cons entry rest inductionHypothesis =>
    obtain ⟨first, values⟩ := entry
    rw [List.map_cons, lookup_entry, lookup_entry]
    split
    · rfl
    · exact inductionHypothesis

theorem lookup_draws (recorder : Recorder σ) (bound : Int) :
    (recorder.draws.lookup bound).getD [] = recorder.valuesFor bound := by
  rw [lookup_draws_eq_map, valuesFor]
  cases recorder.kept.get? bound <;> rfl

theorem nodup_draws (recorder : Recorder σ) : (recorder.draws.map Prod.fst).Nodup := by
  rw [draws, List.map_map]
  exact recorder.kept.nodup_keys

variable [RandomSource σ]

/-- One draw adds its value to those of its upper bound. -/
theorem valuesFor_of_draw {recorder next : Recorder σ} {answer : Answer}
    (drawn : draw recorder answer.minimum answer.maximum = (.ok answer.value, next)) (bound : Int) :
    next.valuesFor bound =
      recorder.valuesFor bound ++ if answer.maximum = bound then [answer.value] else [] := by
  obtain ⟨inner, kept⟩ := recorder
  change Recorder.next ⟨inner, kept⟩ answer.minimum answer.maximum = _ at drawn
  rw [Recorder.next] at drawn
  split at drawn
  · cases drawn
  · split at drawn
    · cases drawn
      rw [valuesFor, valuesFor, OrderedMap.get?_alter]
      by_cases here : bound = answer.maximum
      · simp [here]
      · simp [here, Ne.symm here]
    · cases drawn

theorem valuesFor_of_answers {recorder after : Recorder σ} {trace : List Answer}
    (answers : Answers recorder trace after) (bound : Int) :
    after.valuesFor bound = recorder.valuesFor bound ++ DiceTray.valuesFor bound trace := by
  induction trace generalizing recorder with
  | nil =>
    cases answers
    exact (List.append_nil _).symm
  | cons answer rest inductionHypothesis =>
    obtain ⟨next, drawn, later⟩ := answers
    rw [inductionHypothesis later, valuesFor_of_draw drawn, valuesFor_cons, List.append_assoc]

end Recorder

/-- A source that hands out values by the upper bounds they are kept for. -/
structure Replay where
  /-- For each upper bound the values that are left. -/
  left : OrderedMap Int (List Int)

namespace Replay

/-- A source that hands out draws. -/
def ofDraws (draws : Draws) : Replay := ⟨.ofList draws⟩

/-- Answers with the next value for the upper bound, whatever the lower bound. -/
def next (replay : Replay) (maximum : Int) : Except DrawError Int × Replay :=
  match replay.left.get? maximum with
  | some (value :: rest) => (.ok value, ⟨replay.left.insert maximum rest⟩)
  | _ => (.error .exhausted, replay)

instance : RandomSource Replay where
  draw replay _ maximum := replay.next maximum
  name _ := "replay"

/-- The values that are left for an upper bound. -/
def valuesFor (replay : Replay) (bound : Int) : List Int := (replay.left.get? bound).getD []

/-- Every list of values is used up. -/
def Spent (replay : Replay) : Prop := ∀ entry ∈ replay.left.entries, entry.2 = []

theorem spent_of_valuesFor {replay : Replay} (used : ∀ bound, replay.valuesFor bound = []) :
    replay.Spent := by
  rintro ⟨bound, values⟩ member
  have none := used bound
  rwa [valuesFor, (replay.left.mem_entries_iff bound values).1 member] at none

/-- The first value for an upper bound is given, and the others are left. -/
theorem draw_of_valuesFor {replay : Replay} {answer : Answer} {others : List Int}
    (held : replay.valuesFor answer.maximum = answer.value :: others) :
    ∃ next, draw replay answer.minimum answer.maximum = (.ok answer.value, next) ∧
      ∀ bound, next.valuesFor bound =
        if bound = answer.maximum then others else replay.valuesFor bound := by
  rw [valuesFor] at held
  cases found : replay.left.get? answer.maximum with
  | none =>
    rw [found] at held
    cases held
  | some values =>
    rw [found] at held
    cases held
    refine ⟨⟨replay.left.insert answer.maximum others⟩, ?_, fun bound => ?_⟩
    · change Replay.next replay answer.maximum = _
      rw [Replay.next, found]
    · rw [valuesFor, valuesFor, OrderedMap.get?_insert]
      split <;> rfl

/-- A source that holds the values of answers, and others behind them, gives the answers. -/
theorem exists_answers {replay : Replay} {trace : List Answer} {behind : Int → List Int}
    (held : ∀ bound, replay.valuesFor bound = DiceTray.valuesFor bound trace ++ behind bound) :
    ∃ after, Answers replay trace after ∧ ∀ bound, after.valuesFor bound = behind bound := by
  induction trace generalizing replay with
  | nil => exact ⟨replay, rfl, held⟩
  | cons answer rest inductionHypothesis =>
    have first : replay.valuesFor answer.maximum =
        answer.value :: (DiceTray.valuesFor answer.maximum rest ++ behind answer.maximum) := by
      rw [held, valuesFor_cons, if_pos rfl]
      rfl
    obtain ⟨next, drawn, left⟩ := draw_of_valuesFor first
    have later : ∀ bound, next.valuesFor bound = DiceTray.valuesFor bound rest ++ behind bound := by
      intro bound
      rw [left]
      split
      · next here => rw [here]
      · next elsewhere =>
        rw [held, valuesFor_cons, if_neg (Ne.symm elsewhere)]
        rfl
    obtain ⟨after, answers, remaining⟩ := inductionHypothesis later
    exact ⟨after, ⟨next, drawn, answers⟩, remaining⟩

end Replay

/-- What succeeds with a recorder succeeds in the same way with the draws that were recorded, and
uses them up. -/
theorem Mirrors.replay {σ α : Type} [RandomSource σ]
    {live : Recorder σ → Except DrawError α × Recorder σ}
    {again : Replay → Except DrawError α × Replay} (mirrors : Mirrors live again) {inner : σ}
    {value : α} {after : Recorder σ} (done : live (.start inner) = (.ok value, after)) :
    ∃ rest, again (.ofDraws (History.ordered after.draws)) = (.ok value, rest) ∧ rest.Spent := by
  obtain ⟨trace, given, follows⟩ := mirrors _ _ _ done
  have held : ∀ bound, (Replay.ofDraws (History.ordered after.draws)).valuesFor bound =
      valuesFor bound trace ++ [] := by
    intro bound
    rw [Replay.valuesFor, Replay.ofDraws, OrderedMap.get?,
      OrderedMap.entries_ofList (History.nodup_ordered after.nodup_draws),
      History.lookup_ordered after.nodup_draws, after.lookup_draws,
      Recorder.valuesFor_of_answers given, List.append_nil]
    rfl
  obtain ⟨rest, answers, spent⟩ := Replay.exists_answers held
  exact ⟨rest, follows _ rest answers, Replay.spent_of_valuesFor spent⟩

end DiceTray
