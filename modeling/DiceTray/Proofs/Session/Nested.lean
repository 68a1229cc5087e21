import DiceTray.Proofs.Session.Planning
import DiceTray.Proofs.Source.Showing

/-!
# The nested reading of a roll

What a roll shows, said argument by argument and without a plan: an alias shows its heading and then
the results of its expressions, any other argument shows its own results, and all draw from one
source in turn. The performance of a plan shows the same, although it only looks at the place of the
argument before to tell whether a heading is due: an alias has an expression at least, so a new
place is a new argument.
-/

namespace DiceTray

namespace Performance

variable {σ : Type} [RandomSource σ] {store : AliasStore}

/-! ## Argument by argument -/

/-- Rolls an expression and shows the results under a text. -/
def showRoll (store : AliasStore) (text : String) (expression : Expression) : Showing σ :=
  fun source =>
    match expression.roll source with
    | (.error error, source) => (.error (.draw error), source)
    | (.ok results, source) =>
      ((do
        let lines ← Line.ofResults expression.sides text results
        lineTexts (fun role => some (store.color role)) lines).mapError .number, source)

/-- Rolls a text. -/
def showText (store : AliasStore) (text : String) : Showing σ :=
  match Expression.parse text with
  | .error error => .fails (.ofExpression error)
  | .ok expression => showRoll store text expression

/-- Rolls an argument: below its heading the expressions of the alias that it names, or else the
argument itself. -/
def showArgument (store : AliasStore) (argument : String) : Showing σ :=
  match store.get? argument with
  | some named =>
    (Showing.lines [store.heading argument]).andThen (.each (showText store) named.expressions)
  | none => showText store argument

/-- Rolls arguments one after the other. -/
def showArguments (store : AliasStore) (arguments : List String) : Showing σ :=
  .each (showArgument store) arguments

/-! ## The performance of a plan -/

/-- Shows the results of planned rolls in order, with the headings that are due; `previous` is the
place of the argument before. -/
def showPlan (store : AliasStore) (previous : Option Nat) : List PlannedRoll → Showing σ
  | [] => .lines []
  | planned :: rest =>
    (Showing.lines (headings store previous planned)).andThen
      ((showRoll store planned.text planned.expression).andThen
        (showPlan store (some planned.place) rest))

/-- A performance shows the results of the plan below what was shown before. -/
theorem outcome_ofPlan (previous : Option Nat) (shown : List String) (plan : List PlannedRoll)
    (recorder : Recorder σ) :
    ((ofPlan store previous shown plan recorder).1.outcome,
        (ofPlan store previous shown plan recorder).2) =
      (Showing.lines shown.reverse).andThen (showPlan store previous plan) recorder := by
  induction plan generalizing previous shown recorder with
  | nil =>
    rw [showPlan, Showing.andThen_lines_nil]
    rfl
  | cons planned rest inductionHypothesis =>
    have titled : shown.reverse ++ headings store previous planned =
        (headings store previous planned ++ shown).reverse := by
      rw [List.reverse_append, reverse_headings]
    rw [ofPlan, showPlan, ← Showing.andThen_assoc, Showing.lines_andThen_lines, titled]
    generalize headings store previous planned ++ shown = above
    rw [lines]
    simp only [Showing.andThen, showRoll, Showing.lines]
    rcases planned.expression.roll recorder with ⟨error | results, middle⟩
    · rfl
    dsimp only
    cases Line.ofResults planned.expression.sides planned.text results with
    | error error => rfl
    | ok made =>
      have displayed := outcome_showLines (fun role => some (store.color role)) above made
      have faultless : (Except.ok made).mapError Fault.number = .ok made := rfl
      rw [ok_bind, faultless]
      dsimp only
      generalize showLines (fun role => some (store.color role)) above made = performed
        at displayed ⊢
      obtain ⟨reached, fault | ⟨⟩⟩ := performed
      · obtain written : (lineTexts _ made).mapError Fault.number = .error fault :=
          map_eq_error_iff.1 displayed.symm
        rw [written]
        rfl
      · obtain ⟨texts, written, same⟩ := map_eq_ok_iff.1 displayed.symm
        have later := inductionHypothesis (some planned.place) reached middle
        simp only [Showing.andThen, Showing.lines, ← same] at later
        rw [written]
        dsimp only
        rw [later]
        rcases showPlan store (some planned.place) rest middle with ⟨fault | below, after⟩
        · rfl
        · simp only [List.append_assoc]

/-! ## Headings -/

theorem showText_of_parse {text : String} {expression : Expression}
    (read : Expression.parse text = .ok expression) :
    (showText store text : Showing σ) = showRoll store text expression := by
  rw [showText, read]

/-- Below the first of its expressions an argument needs no heading. -/
theorem showPlan_append_of_place {place : Nat} {here rest : List PlannedRoll}
    (shared : ∀ planned ∈ here, planned.place = place)
    (read : ∀ planned ∈ here, Expression.parse planned.text = .ok planned.expression) :
    (showPlan store (some place) (here ++ rest) : Showing σ) =
      (Showing.each (showText store) (here.map PlannedRoll.text)).andThen
        (showPlan store (some place) rest) := by
  induction here with
  | nil => exact (Showing.lines_nil_andThen _).symm
  | cons planned others inductionHypothesis =>
    obtain ⟨placed, laterPlaced⟩ := List.forall_mem_cons.1 shared
    obtain ⟨parsed, laterParsed⟩ := List.forall_mem_cons.1 read
    have untitled : headings store (some place) planned = [] := by
      rw [headings, placed]
      cases planned.aliasName <;> simp
    rw [List.cons_append, showPlan, untitled, Showing.lines_nil_andThen, placed,
      inductionHypothesis laterPlaced laterParsed, List.map_cons, Showing.each,
      showText_of_parse parsed, Showing.andThen_assoc]

/-- Every argument asks for a text, for an alias has an expression at least. -/
theorem textsOf_ne_nil (valid : store.Valid) (argument : String) : store.textsOf argument ≠ [] := by
  rw [AliasStore.textsOf]
  cases found : store.get? argument with
  | none => exact List.cons_ne_nil _ _
  | some named => exact (valid.aliases argument named found).1

/-- An argument is shown in full where the place before is another one. -/
theorem showPlan_append_of_ofArgument {argument : String} {place : Nat} {previous : Option Nat}
    {here rest : List PlannedRoll} (valid : store.Valid)
    (planned : PlannedRoll.ofArgument store place argument = .ok here)
    (elsewhere : previous ≠ some place) :
    (showPlan store previous (here ++ rest) : Showing σ) =
      (showArgument store argument).andThen (showPlan store (some place) rest) := by
  have texts := PlannedRoll.map_text_of_ofArgument planned
  have asked := PlannedRoll.eq_of_mem_ofArgument planned
  cases here with
  | nil => exact absurd texts.symm (textsOf_ne_nil valid argument)
  | cons first others =>
    obtain ⟨⟨placed, named, parsed⟩, later⟩ := List.forall_mem_cons.1 asked
    have shown : (showPlan store previous (first :: others ++ rest) : Showing σ) =
        (Showing.lines (headings store previous first)).andThen
          ((Showing.each (showText store) (store.textsOf argument)).andThen
            (showPlan store (some place) rest)) := by
      rw [List.cons_append, showPlan, placed,
        showPlan_append_of_place (fun planned member => (later planned member).1)
          (fun planned member => (later planned member).2.2),
        ← texts, List.map_cons, Showing.each, showText_of_parse parsed, Showing.andThen_assoc]
    rw [shown, headings, named, showArgument, AliasStore.textsOf]
    cases store.get? argument with
    | none =>
      dsimp only [Option.map_none]
      rw [Showing.lines_nil_andThen, Showing.each, Showing.each, Showing.andThen_lines_nil]
    | some named =>
      dsimp only [Option.map_some]
      rw [placed, if_neg elsewhere, Showing.andThen_assoc]

/-- A plan shows what its arguments show, one after the other. -/
theorem showPlan_ofArguments {arguments : List String} {place : Nat} {previous : Option Nat}
    {plan : List PlannedRoll} (valid : store.Valid)
    (planned : PlannedRoll.ofArguments store place arguments = .ok plan)
    (earlier : ∀ other, previous = some other → other < place) :
    (showPlan store previous plan : Showing σ) = showArguments store arguments := by
  induction arguments generalizing place previous plan with
  | nil =>
    cases planned
    rfl
  | cons argument rest inductionHypothesis =>
    rw [PlannedRoll.ofArguments, bind_eq_ok_iff] at planned
    obtain ⟨here, plannedHere, planned⟩ := planned
    obtain ⟨after, plannedAfter, planned⟩ := bind_eq_ok_iff.1 planned
    cases planned
    have elsewhere : previous ≠ some place := fun same =>
      Nat.lt_irrefl place (earlier place same)
    rw [showPlan_append_of_ofArgument valid plannedHere elsewhere,
      inductionHypothesis plannedAfter fun other same => by
        cases same
        exact Nat.lt_succ_self place]
    rfl

/-! ## Aliases and their expressions -/

theorem showArguments_append (store : AliasStore) (front back : List String) :
    (showArguments store (front ++ back) : Showing σ) =
      (showArguments store front).andThen (showArguments store back) :=
  Showing.each_append _ front back

/-- The expressions of an alias show below its heading what they show as arguments, unless one of
them is the name of an alias. -/
theorem showArgument_of_alias {name : String} {named : Alias} (found : store.get? name = some named)
    (plain : ∀ text ∈ named.expressions, store.get? text = none) :
    (showArgument store name : Showing σ) =
      (Showing.lines [store.heading name]).andThen (showArguments store named.expressions) := by
  have same : (Showing.each (showText store) named.expressions : Showing σ) =
      showArguments store named.expressions :=
    Showing.each_congr fun text member => by rw [showArgument, plain text member]
  rw [showArgument, found, ← same]

/-- With the expressions of an alias in its place, its heading is missing and all else is the same.
-/
theorem showArguments_of_alias {front back : List String} {name : String} {named : Alias}
    (found : store.get? name = some named)
    (plain : ∀ text ∈ named.expressions, store.get? text = none)
    {source after : σ} {texts : List String}
    (done : showArguments store (front ++ name :: back) source = (.ok texts, after)) :
    ∃ above middle below, showArguments store front source = (.ok above, middle) ∧
      texts = above ++ store.heading name :: below ∧
      showArguments store (front ++ named.expressions ++ back) source =
        (.ok (above ++ below), after) := by
  have whole : (showArguments store (front ++ name :: back) : Showing σ) =
      (showArguments store front).andThen ((Showing.lines [store.heading name]).andThen
        ((showArguments store named.expressions).andThen (showArguments store back))) := by
    rw [showArguments_append, ← Showing.andThen_assoc (Showing.lines _),
      ← showArgument_of_alias found plain]
    rfl
  rw [whole, Showing.andThen_lines_andThen_eq_ok_iff] at done
  obtain ⟨above, middle, below, first, second, rfl⟩ := done
  refine ⟨above, middle, below, first, by simp, ?_⟩
  rw [showArguments_append, showArguments_append, Showing.andThen_assoc]
  exact Showing.andThen_eq_ok_iff.2 ⟨above, middle, below, first, second, rfl⟩

end Performance

end DiceTray
