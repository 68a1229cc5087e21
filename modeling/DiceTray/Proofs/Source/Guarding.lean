import DiceTray.Proofs.Source.Reliable

/-!
# What a recorder lets through

A recorder asks its source once for each request that is made of it. It hands on what lies within
the bounds and nothing else, and it keeps the values that it handed on by their upper bounds. So a
roll through a recorder is the roll from its source as long as the source gives sides of the die,
and it ends at the first draw that is missing or lies outside, with the draws before it kept.
-/

namespace DiceTray

/-- A request and what came of it. -/
structure Exchange where
  minimum : Int
  maximum : Int
  outcome : Except DrawError Int

namespace Exchange

/-- The bounds of the request. -/
def bounds (exchange : Exchange) : Int × Int := (exchange.minimum, exchange.maximum)

/-- The value that was given for the request, if one was. -/
def answer? (exchange : Exchange) : Option Answer :=
  match exchange.outcome with
  | .ok value => some ⟨exchange.minimum, exchange.maximum, value⟩
  | .error _ => none

/-- A value within the bounds was given. -/
def Sound (exchange : Exchange) : Prop :=
  ∃ value, exchange.outcome = .ok value ∧ exchange.minimum ≤ value ∧ value ≤ exchange.maximum

/-- How a request to a source is passed on: as it is when a value within the bounds or an error came
of it, and as a refusal of any other value. A refusal names the value and the bounds, unless one of
these numbers is too long to be written. -/
inductive PassedOn : Exchange → Exchange → Prop
  | value {minimum maximum value : Int} (within : minimum ≤ value ∧ value ≤ maximum) :
      PassedOn ⟨minimum, maximum, .ok value⟩ ⟨minimum, maximum, .ok value⟩
  | refusal {minimum maximum value : Int} (outside : ¬ (minimum ≤ value ∧ value ≤ maximum))
      (writable : Writable value ∧ Writable minimum ∧ Writable maximum) :
      PassedOn ⟨minimum, maximum, .ok value⟩
        ⟨minimum, maximum, .error (.outOfRange value minimum maximum)⟩
  /-- A value outside that cannot be named with its bounds ends in a number error. -/
  | overlong {minimum maximum value : Int} (outside : ¬ (minimum ≤ value ∧ value ≤ maximum))
      (unwritable : ¬ (Writable value ∧ Writable minimum ∧ Writable maximum)) :
      PassedOn ⟨minimum, maximum, .ok value⟩ ⟨minimum, maximum, .error (.number .tooLongToWrite)⟩
  | error {minimum maximum : Int} {error : DrawError} :
      PassedOn ⟨minimum, maximum, .error error⟩ ⟨minimum, maximum, .error error⟩

end Exchange

/-- The values given in exchanges. -/
def answersOf (exchanges : List Exchange) : List Answer := exchanges.filterMap Exchange.answer?

theorem answersOf_append (first second : List Exchange) :
    answersOf (first ++ second) = answersOf first ++ answersOf second :=
  List.filterMap_append

theorem valuesFor_append (bound : Int) (first second : List Answer) :
    valuesFor bound (first ++ second) = valuesFor bound first ++ valuesFor bound second := by
  rw [valuesFor, List.filter_append, List.map_append, valuesFor, valuesFor]

theorem valuesFor_singleton (bound : Int) (answer : Answer) :
    valuesFor bound [answer] = if answer.maximum = bound then [answer.value] else [] := by
  rw [valuesFor_cons, valuesFor, List.filter_nil, List.map_nil, List.append_nil]

/-- A source together with the exchanges that it took part in, oldest first. -/
structure Observed (σ : Type) where
  inner : σ
  exchanges : List Exchange

namespace Observed

variable {σ : Type}

/-- A source of which nothing was asked. -/
def start (inner : σ) : Observed σ := ⟨inner, []⟩

/-- Asks the source and notes what came of it. -/
def next [RandomSource σ] (source : Observed σ) (minimum maximum : Int) :
    Except DrawError Int × Observed σ :=
  match draw source.inner minimum maximum with
  | (outcome, inner) => (outcome, ⟨inner, source.exchanges ++ [⟨minimum, maximum, outcome⟩]⟩)

instance [RandomSource σ] : RandomSource (Observed σ) where
  draw := next
  name source := RandomSource.name source.inner

variable [RandomSource σ] (source : Observed σ) (minimum maximum : Int)

theorem inner_draw :
    (draw source minimum maximum).2.inner = (draw source.inner minimum maximum).2 := rfl

theorem exchanges_draw : (draw source minimum maximum).2.exchanges =
    source.exchanges ++ [⟨minimum, maximum, (draw source minimum maximum).1⟩] := rfl

end Observed

/-- Makes requests one after the other, whatever comes of them. -/
def askAll {σ : Type} [RandomSource σ] (requests : List (Int × Int)) (source : σ) : σ :=
  requests.foldl (fun source request => (draw source request.1 request.2).2) source

namespace Recorder

variable {σ : Type}

/-- For each upper bound the recorder holds exactly the values that were given for it, in order, and
nothing where none was given. -/
structure Keeps (recorder : Recorder σ) (answers : List Answer) : Prop where
  /-- No upper bound occurs twice. -/
  distinct : (recorder.draws.map Prod.fst).Nodup
  /-- The values at a bound are those given for it, of which there is one at least. -/
  found : ∀ bound values, recorder.draws.lookup bound = some values ↔
    values ≠ [] ∧ values = DiceTray.valuesFor bound answers

/-- A recorder keeps answers exactly when it holds their values and no empty list. -/
theorem keeps_iff {recorder : Recorder σ} {answers : List Answer} :
    recorder.Keeps answers ↔ (∀ bound, recorder.kept.get? bound ≠ some []) ∧
      ∀ bound, recorder.valuesFor bound = DiceTray.valuesFor bound answers := by
  constructor
  · rintro ⟨-, found⟩
    refine ⟨fun bound empty => ?_, fun bound => ?_⟩
    · have none := (found bound []).1 (by rw [lookup_draws_eq_map, empty]; rfl)
      exact none.1 rfl
    · rw [← lookup_draws]
      cases held : recorder.draws.lookup bound with
      | some values => exact ((found bound values).1 held).2
      | none =>
        by_contra missing
        have there := (found bound _).2 ⟨fun none => missing none.symm, rfl⟩
        rw [held] at there
        cases there
  · rintro ⟨filled, same⟩
    refine ⟨recorder.nodup_draws, fun bound values => ?_⟩
    rw [← same bound, ← lookup_draws]
    cases held : recorder.draws.lookup bound with
    | none => simp
    | some others =>
      have present : others ≠ [] := by
        rintro rfl
        rw [lookup_draws_eq_map, Option.map_eq_some_iff] at held
        obtain ⟨values, found, none⟩ := held
        exact filled bound (by rw [found, List.reverse_eq_nil_iff.1 none])
      rw [Option.some.injEq, Option.getD_some]
      constructor
      · rintro rfl
        exact ⟨present, rfl⟩
      · exact fun given => given.2.symm

/-- What is kept does not depend on the source that is asked. -/
theorem Keeps.of_kept {inner : σ} {kept : OrderedMap Int (List Int)} {answers : List Answer}
    (keeps : (⟨inner, kept⟩ : Recorder σ).Keeps answers) (other : σ) :
    (⟨other, kept⟩ : Recorder σ).Keeps answers :=
  ⟨keeps.distinct, keeps.found⟩

theorem keeps_start (inner : σ) : (start inner).Keeps [] :=
  keeps_iff.2 ⟨nofun, fun _ => rfl⟩

variable [RandomSource σ]

/-- What a recorder does with one request: it asks its source once, passes on what came of it, and
keeps the value that it gave, if it gave one. -/
theorem draw_spec {recorder : Recorder σ} {answers : List Answer} (keeps : recorder.Keeps answers)
    (minimum maximum : Int) :
    (draw recorder minimum maximum).2.inner = (draw recorder.inner minimum maximum).2 ∧
      Exchange.PassedOn ⟨minimum, maximum, (draw recorder.inner minimum maximum).1⟩
        ⟨minimum, maximum, (draw recorder minimum maximum).1⟩ ∧
      (draw recorder minimum maximum).2.Keeps
        (answers ++ answersOf [⟨minimum, maximum, (draw recorder minimum maximum).1⟩]) := by
  obtain ⟨inner, kept⟩ := recorder
  have unfolded : draw (⟨inner, kept⟩ : Recorder σ) minimum maximum =
    Recorder.next ⟨inner, kept⟩ minimum maximum := rfl
  rcases asked : draw inner minimum maximum with ⟨error | value, after⟩
  · have passed : draw (⟨inner, kept⟩ : Recorder σ) minimum maximum =
        (.error error, ⟨after, kept⟩) := by
      rw [unfolded, Recorder.next, asked]
    rw [passed]
    exact ⟨rfl, .error, (List.append_nil answers).symm ▸ keeps.of_kept after⟩
  · by_cases within : minimum ≤ value ∧ value ≤ maximum
    · have passed : draw (⟨inner, kept⟩ : Recorder σ) minimum maximum = (.ok value,
          ⟨after, kept.alter maximum fun values => value :: values.getD []⟩) := by
        rw [unfolded, Recorder.next, asked]
        exact if_pos within
      obtain ⟨filled, held⟩ := keeps_iff.1 keeps
      rw [passed]
      refine ⟨rfl, .value within, keeps_iff.2 ⟨fun bound empty => ?_, fun bound => ?_⟩⟩
      · rw [OrderedMap.get?_alter] at empty
        split at empty
        · cases empty
        · exact filled bound empty
      · have added : DiceTray.valuesFor bound (answersOf [⟨minimum, maximum, .ok value⟩]) =
            if maximum = bound then [value] else [] := valuesFor_singleton bound _
        have extended := @valuesFor_of_draw _ _ _ _ ⟨minimum, maximum, value⟩ passed bound
        rw [extended, held, valuesFor_append, added]
    · have passed : draw (⟨inner, kept⟩ : Recorder σ) minimum maximum =
          (.error (.ofValue value minimum maximum), ⟨after, kept⟩) := by
        rw [unfolded, Recorder.next, asked]
        exact if_neg within
      rw [passed]
      refine ⟨rfl, ?_, (List.append_nil answers).symm ▸ keeps.of_kept after⟩
      rw [DrawError.ofValue]
      split
      · next writable => exact .refusal within writable
      · next unwritable => exact .overlong within unwritable

end Recorder

section Calls

variable {σ : Type}

/-- What calls of a recorder come to: each of them asked the source once, within the same bounds,
and passed on what came of it, and exactly the values that were given to the caller are kept. -/
structure Conducted (requests : List (Int × Int)) (calls : Observed (Recorder (Observed σ))) :
    Prop where
  /-- The recorder was called with the requests. -/
  called : calls.exchanges.map Exchange.bounds = requests
  /-- So was the source, as often and in the same order. -/
  forwarded : calls.inner.inner.exchanges.map Exchange.bounds = requests
  passed : List.Forall₂ Exchange.PassedOn calls.inner.inner.exchanges calls.exchanges
  keeps : calls.inner.Keeps (answersOf calls.exchanges)

theorem conducted_start (inner : σ) :
    Conducted [] (Observed.start (Recorder.start (Observed.start inner))) where
  called := rfl
  forwarded := rfl
  passed := .nil
  keeps := Recorder.keeps_start _

variable [RandomSource σ]

/-- One more call. -/
theorem Conducted.draw {requests : List (Int × Int)} {calls : Observed (Recorder (Observed σ))}
    (conducted : Conducted requests calls) (minimum maximum : Int) :
    Conducted (requests ++ [(minimum, maximum)]) (draw calls minimum maximum).2 := by
  obtain ⟨asked, passed, keeps⟩ := Recorder.draw_spec conducted.keeps minimum maximum
  constructor
  · rw [Observed.exchanges_draw, List.map_append, conducted.called]
    rfl
  · rw [Observed.inner_draw, asked, Observed.exchanges_draw, List.map_append, conducted.forwarded]
    rfl
  · rw [Observed.inner_draw, asked, Observed.exchanges_draw, Observed.exchanges_draw]
    exact List.rel_append conducted.passed (.cons passed .nil)
  · rw [Observed.inner_draw, Observed.exchanges_draw, answersOf_append]
    exact keeps

/-- Any number of calls. -/
theorem Conducted.askAll {before requests : List (Int × Int)}
    {calls : Observed (Recorder (Observed σ))} (conducted : Conducted before calls) :
    Conducted (before ++ requests) (askAll requests calls) := by
  induction requests generalizing before calls with
  | nil =>
    rw [List.append_nil]
    exact conducted
  | cons request rest inductionHypothesis =>
    have next := inductionHypothesis (conducted.draw request.1 request.2)
    rw [List.append_assoc] at next
    exact next

end Calls

section Rolling

variable {α β σ : Type}

/-- How a computation through a recorder ends that began with a source and with answers kept,
compared with the same computation from the source. -/
inductive Shadowed (source : Observed σ) (answers : List Answer) :
    Except DrawError α × Observed σ → Except DrawError α × Recorder (Observed σ) → Prop
  /-- All draws are sound: the computations succeed alike, and the draws are kept. -/
  | agrees {value : α} {recorder : Recorder (Observed σ)} (sound : List Exchange)
      (spoken : recorder.inner.exchanges = source.exchanges ++ sound)
      (all : ∀ exchange ∈ sound, exchange.Sound)
      (keeps : recorder.Keeps (answers ++ answersOf sound)) :
      Shadowed source answers (.ok value, recorder.inner) (.ok value, recorder)
  /-- A draw is not sound: the one through the recorder ends there with what is passed on of this
  draw, and the draws before it are kept. -/
  | stops {outcome : Except DrawError α} {after : Observed σ} {recorder : Recorder (Observed σ)}
      (sound later : List Exchange) {bad : Exchange} {error : DrawError}
      (spoken : after.exchanges = source.exchanges ++ (sound ++ bad :: later))
      (heard : recorder.inner.exchanges = source.exchanges ++ (sound ++ [bad]))
      (all : ∀ exchange ∈ sound, exchange.Sound) (unsound : ¬ bad.Sound)
      (passed : bad.PassedOn ⟨bad.minimum, bad.maximum, .error error⟩)
      (keeps : recorder.Keeps (answers ++ answersOf sound)) :
      Shadowed source answers (outcome, after) (.error error, recorder)

/-- A computation from a source is shadowed by one through a recorder of that source. -/
def Shadows (bare : Observed σ → Except DrawError α × Observed σ)
    (guarded : Recorder (Observed σ) → Except DrawError α × Recorder (Observed σ)) : Prop :=
  ∀ recorder answers, recorder.Keeps answers →
    Shadowed recorder.inner answers (bare recorder.inner) (guarded recorder)

variable {bare : Observed σ → Except DrawError α × Observed σ}
variable {guarded : Recorder (Observed σ) → Except DrawError α × Recorder (Observed σ)}

/-- A computation that is shadowed adds to what was exchanged. -/
theorem Shadows.exists_exchanges (shadows : Shadows bare guarded) (source : Observed σ) :
    ∃ more, (bare source).2.exchanges = source.exchanges ++ more := by
  have shadowed := shadows (.start source) [] (Recorder.keeps_start source)
  change Shadowed source [] (bare source) _ at shadowed
  generalize bare source = ended, guarded (.start source) = ended' at shadowed ⊢
  cases shadowed with
  | agrees sound spoken => exact ⟨sound, spoken⟩
  | stops sound later spoken => exact ⟨_, spoken⟩

theorem shadows_value (value : α) :
    Shadows (σ := σ) (fun source => (.ok value, source)) fun recorder => (.ok value, recorder) := by
  intro recorder answers keeps
  refine .agrees [] (List.append_nil _).symm nofun ?_
  exact (List.append_nil answers).symm ▸ keeps

theorem Shadows.chain (begun : Shadows bare guarded)
    {next : α → Observed σ → Except DrawError β × Observed σ}
    {next' : α → Recorder (Observed σ) → Except DrawError β × Recorder (Observed σ)}
    (rest : ∀ value, Shadows (next value) (next' value)) :
    Shadows (chain bare next) (chain guarded next') := by
  intro recorder answers keeps
  have shadowed := begun recorder answers keeps
  unfold DiceTray.chain
  generalize bare recorder.inner = ended, guarded recorder = ended' at shadowed
  cases shadowed with
  | @agrees value middle sound spoken all keeps =>
    have later := rest value middle _ keeps
    dsimp only
    generalize next value middle.inner = ended, next' value middle = ended' at later
    cases later with
    | @agrees result last sound' spoken' all' keeps' =>
      refine .agrees (sound ++ sound') ?_ (List.forall_mem_append.2 ⟨all, all'⟩) ?_
      · rw [spoken', spoken, List.append_assoc]
      · rw [answersOf_append, ← List.append_assoc]
        exact keeps'
    | @stops outcome after last sound' later bad error spoken' heard all' unsound passed keeps' =>
      refine .stops (sound ++ sound') later ?_ ?_
        (List.forall_mem_append.2 ⟨all, all'⟩) unsound passed ?_
      · rw [spoken', spoken, List.append_assoc, List.append_assoc]
      · rw [heard, spoken, List.append_assoc, List.append_assoc]
      · rw [answersOf_append, ← List.append_assoc]
        exact keeps'
  | @stops outcome after last sound later bad error spoken heard all unsound passed keeps =>
    -- the computation through the recorder has ended, the other one may go on
    cases outcome with
    | error error => exact .stops sound later spoken heard all unsound passed keeps
    | ok value =>
      obtain ⟨more, added⟩ := (rest value).exists_exchanges after
      refine .stops sound (later ++ more) ?_ heard all unsound passed keeps
      rw [added, spoken, List.append_assoc, List.append_assoc, List.cons_append]

variable [RandomSource σ]

theorem shadows_draw (minimum maximum : Int) :
    Shadows (σ := σ) (fun source => draw source minimum maximum)
      fun recorder => draw recorder minimum maximum := by
  intro recorder answers keeps
  obtain ⟨asked, passed, kept⟩ := Recorder.draw_spec keeps minimum maximum
  have spoken := recorder.inner.exchanges_draw minimum maximum
  change Shadowed _ _ (draw recorder.inner minimum maximum) (draw recorder minimum maximum)
  rcases answered : draw recorder.inner minimum maximum with ⟨outcome, source⟩
  rcases given : draw recorder minimum maximum with ⟨result, next⟩
  rw [answered] at spoken
  rw [given, answered] at asked
  rw [given, answered] at passed
  rw [given] at kept
  obtain rfl : next.inner = source := asked
  have unkept {error : DrawError} (failed : result = .error error) :
      next.Keeps (answers ++ []) := by
    subst failed
    exact kept
  cases passed with
  | @value _ _ value within =>
    exact .agrees _ spoken (List.forall_mem_singleton.2 ⟨value, rfl, within⟩) kept
  | @refusal _ _ value outside writable =>
    refine .stops [] [] spoken spoken nofun ?_ (.refusal outside writable) (unkept rfl)
    rintro ⟨_, same, within⟩
    cases same
    exact outside within
  | @overlong _ _ value outside unwritable =>
    refine .stops [] [] spoken spoken nofun ?_ (.overlong outside unwritable) (unkept rfl)
    rintro ⟨_, same, within⟩
    cases same
    exact outside within
  | error =>
    refine .stops [] [] spoken spoken nofun ?_ .error (unkept rfl)
    rintro ⟨_, same, -⟩
    cases same

theorem lockstep_shadows (sides : Int) : Lockstep sides fun _ => Shadows (σ := σ) where
  value := shadows_value
  draw := shadows_draw 1 sides
  chain begun rest := begun.chain rest

end Rolling

section Views

variable {σ τ : Type} [RandomSource σ] [RandomSource τ]

/-- The states of one source seen as those of another that gives the same. -/
def IsView (view : τ → σ) : Prop :=
  ∀ source minimum maximum, draw (view source) minimum maximum =
    ((draw source minimum maximum).1, view (draw source minimum maximum).2)

theorem Observed.isView_inner : IsView (Observed.inner : Observed σ → σ) := fun _ _ _ => rfl

/-- A recorder sees what its source does and nothing of how it does it. -/
theorem Recorder.isView {view : τ → σ} (sees : IsView view) :
    IsView fun recorder : Recorder τ => (⟨view recorder.inner, recorder.kept⟩ : Recorder σ) := by
  rintro ⟨inner, kept⟩ minimum maximum
  change Recorder.next ⟨view inner, kept⟩ minimum maximum =
    ((Recorder.next ⟨inner, kept⟩ minimum maximum).1,
      ⟨view (Recorder.next ⟨inner, kept⟩ minimum maximum).2.inner,
        (Recorder.next ⟨inner, kept⟩ minimum maximum).2.kept⟩)
  rw [Recorder.next, Recorder.next, sees]
  rcases draw inner minimum maximum with ⟨error | value, after⟩
  · rfl
  · dsimp only
    split <;> rfl

/-- A roll from a source is the same in every view of it. -/
theorem Expression.roll_view {view : τ → σ} (sees : IsView view) (expression : Expression)
    (source : τ) : expression.roll (view source) =
      ((expression.roll source).1, view (expression.roll source).2) := by
  have lockstep : Lockstep (σ := σ) (τ := τ) expression.sides fun _ step step' =>
      ∀ source, step (view source) = ((step' source).1, view (step' source).2) := by
    refine ⟨fun _ _ => rfl, fun source => sees source 1 expression.sides, ?_⟩
    intro _ _ first first' next next' begun rest source
    rw [chain, chain, begun]
    rcases first' source with ⟨error | value, after⟩
    · rfl
    · exact rest value after
  exact lockstep.roll source

/-- All that a roll asks for are dice of the expression. -/
theorem Expression.bounds_of_roll (expression : Expression) (source : Observed σ)
    (before : ∀ exchange ∈ source.exchanges, exchange.bounds = (1, expression.sides)) :
    ∀ exchange ∈ (expression.roll source).2.exchanges, exchange.bounds = (1, expression.sides) := by
  have lockstep : Lockstep (σ := Observed σ) (τ := σ) expression.sides fun _ step _ =>
      ∀ source, (∀ exchange ∈ source.exchanges, exchange.bounds = (1, expression.sides)) →
        ∀ exchange ∈ (step source).2.exchanges, exchange.bounds = (1, expression.sides) := by
    refine ⟨fun _ _ before => before, fun source before => ?_, ?_⟩
    · rw [Observed.exchanges_draw, List.forall_mem_append]
      exact ⟨before, List.forall_mem_singleton.2 rfl⟩
    · intro _ _ first _ next _ begun rest source before
      have middle := begun source before
      rw [chain]
      generalize first source = ended at middle ⊢
      rcases ended with ⟨error | value, after⟩
      · exact middle
      · exact rest value after middle
  exact lockstep.roll source before

end Views

variable {σ : Type} [RandomSource σ]

/-- How a roll through a recorder compares with the roll from its source. -/
structure RolledThrough (expression : Expression) (source : σ) : Prop where
  /-- Observing the source changes nothing about the roll from it. -/
  bare : expression.roll source = ((expression.roll (Observed.start source)).1,
    (expression.roll (Observed.start source)).2.inner)
  /-- Nor does it change anything about the roll through a recorder. -/
  guarded : expression.roll (Recorder.start source) =
    ((expression.roll (Recorder.start (Observed.start source))).1,
      ⟨(expression.roll (Recorder.start (Observed.start source))).2.inner.inner,
        (expression.roll (Recorder.start (Observed.start source))).2.kept⟩)
  dice : ∀ exchange ∈ (expression.roll (Observed.start source)).2.exchanges,
    exchange.bounds = (1, expression.sides)
  /-- Both rolls give the same, or the one through the recorder ends at the first draw that is not
  sound. -/
  shadowed : Shadowed (Observed.start source) [] (expression.roll (Observed.start source))
    (expression.roll (Recorder.start (Observed.start source)))
  /-- What is rolled through the recorder are sides of the die. -/
  sides : ∀ results after, expression.roll (Recorder.start source) = (.ok results, after) →
    ∀ result ∈ results, ∀ value ∈ result.rolls, 1 ≤ value ∧ value ≤ expression.sides

theorem rolledThrough (expression : Expression) (source : σ) : RolledThrough expression source where
  bare := expression.roll_view Observed.isView_inner (Observed.start source)
  guarded := expression.roll_view (Recorder.isView Observed.isView_inner)
    (Recorder.start (Observed.start source))
  dice := expression.bounds_of_roll (Observed.start source) nofun
  shadowed := (lockstep_shadows expression.sides).roll (.start (.start source)) []
    (Recorder.keeps_start _)
  sides := by
    intro results after rolled result member value among
    have drawn : ∀ (recorder : Recorder σ) value next,
        draw recorder 1 expression.sides = (.ok value, next) →
          1 ≤ value ∧ value ≤ expression.sides :=
      fun _ _ _ drawn => (Recorder.within_of_draw drawn).2
    obtain ⟨-, gives⟩ := Expression.gives_of_roll drawn rolled
    obtain ⟨rolls, rfl, -, within⟩ := gives result member
    exact within value among

/-- A recorder guards and records any source. However it is called, each call asks the source once
within the same bounds and passes on what came of it, and exactly the values that were handed on are
kept by their upper bounds; this holds after any number of calls, so it holds after each of them. A
roll through a recorder gives what the roll from the source gives, with sides of the die alone, or
it ends at the first draw that is missing or lies outside, with the draws before it kept. -/
theorem recorder_guards_and_records (source : σ) :
    (∀ requests, Conducted requests
      (askAll requests (Observed.start (Recorder.start (Observed.start source))))) ∧
    ∀ expression, RolledThrough expression source :=
  ⟨fun _ => (conducted_start source).askAll, fun expression => rolledThrough expression source⟩

end DiceTray
