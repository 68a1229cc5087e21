import DiceTray.Plan
import DiceTray.Proofs.Sequence

/-!
# The texts of a plan

A plan is made text by text. The texts that arguments ask for are those of the aliases among them
and the other arguments themselves, in order and as often as they are asked for. The first of them
that cannot be rolled decides the fault of the plan, and where there is none every text is planned.
-/

namespace DiceTray

/-- Why a text is not rolled: it is no expression, or one that is beyond the limits. -/
def Expression.fault? (text : String) : Option Fault :=
  match parse text with
  | .error error => some (.ofExpression error)
  | .ok expression =>
    if mostSides < expression.sides then some (.limit (.manySides text))
    else if mostDice < expression.count * expression.repetitions then some (.limit (.manyDice text))
    else none

namespace AliasStore

/-- The texts that an argument asks for: those of the alias that it names, or the argument itself.
-/
def textsOf (store : AliasStore) (argument : String) : List String :=
  match store.get? argument with
  | some named => named.expressions
  | none => [argument]

/-- The texts that arguments ask for. -/
def texts (store : AliasStore) (arguments : List String) : List String :=
  arguments.flatMap store.textsOf

theorem texts_append (store : AliasStore) (front back : List String) :
    store.texts (front ++ back) = store.texts front ++ store.texts back :=
  List.flatMap_append

/-- The expressions of an alias ask for what the alias asks for, unless one of them is the name of
an alias. -/
theorem texts_of_alias {store : AliasStore} {name : String} {named : Alias}
    (found : store.get? name = some named)
    (plain : ∀ text ∈ named.expressions, store.get? text = none) (front back : List String) :
    store.texts (front ++ named.expressions ++ back) = store.texts (front ++ name :: back) := by
  have own : store.texts named.expressions = store.texts [name] := by
    have single : ∀ text ∈ named.expressions, store.textsOf text = [text] := fun text member => by
      rw [textsOf, plain text member]
    rw [texts, List.flatMap_def, List.map_congr_left single, ← List.flatMap_def,
      List.flatMap_singleton', texts, List.flatMap_singleton, textsOf, found]
  rw [texts_append, texts_append, own, List.append_assoc, ← texts_append, ← texts_append]
  rfl

end AliasStore

namespace PlannedRoll

/-- A text that is asked for. -/
structure Item where
  place : Nat
  aliasName : Option String
  text : String

/-- What a planned roll was asked for. -/
def item (planned : PlannedRoll) : Item := ⟨planned.place, planned.aliasName, planned.text⟩

/-- What an argument asks for. -/
def itemsOf (store : AliasStore) (place : Nat) (argument : String) : List Item :=
  (store.textsOf argument).map fun text =>
    ⟨place, (store.get? argument).map fun _ => argument, text⟩

/-- What arguments ask for, of which the first has a place. -/
def items (store : AliasStore) (place : Nat) (arguments : List String) : List Item :=
  (arguments.zipIdx place).flatMap fun (argument, place) => itemsOf store place argument

/-- The planned roll of an item. -/
def ofItem (item : Item) : Except Fault PlannedRoll := ofText item.place item.aliasName item.text

theorem map_text_items (store : AliasStore) (place : Nat) (arguments : List String) :
    (items store place arguments).map Item.text = store.texts arguments := by
  have here (argument : String) (place : Nat) :
      (itemsOf store place argument).map Item.text = store.textsOf argument := by
    simp [itemsOf, Function.comp_def]
  induction arguments generalizing place with
  | nil => rfl
  | cons argument rest inductionHypothesis =>
    have later := inductionHypothesis (place + 1)
    simp only [items, AliasStore.texts] at later ⊢
    rw [List.zipIdx_cons, List.flatMap_cons, List.map_append, here, later, List.flatMap_cons]

/-- The plan of an argument is made item by item. -/
theorem ofArgument_eq_mapM (store : AliasStore) (place : Nat) (argument : String) :
    ofArgument store place argument = (itemsOf store place argument).mapM ofItem := by
  rw [ofArgument, itemsOf, AliasStore.textsOf]
  cases store.get? argument <;> simp only [List.mapM_map] <;> rfl

/-- So is that of arguments. -/
theorem ofArguments_eq_mapM (store : AliasStore) (place : Nat) (arguments : List String) :
    ofArguments store place arguments = (items store place arguments).mapM ofItem := by
  induction arguments generalizing place with
  | nil => rfl
  | cons argument rest inductionHypothesis =>
    have later := inductionHypothesis (place + 1)
    rw [ofArguments, ofArgument_eq_mapM, later]
    simp only [items]
    rw [List.zipIdx_cons, List.flatMap_cons, List.mapM_append]

/-- The limits are checked for what a text was read as. -/
theorem checkLimits_eq {text : String} {expression : Expression}
    (read : Expression.parse text = .ok expression) :
    (expression.checkLimits text).mapError Fault.limit =
      match Expression.fault? text with
      | some fault => .error fault
      | none => .ok () := by
  simp only [Expression.fault?, read, Expression.checkLimits]
  by_cases sides : mostSides < expression.sides
  · simp only [if_pos sides]
    rfl
  · simp only [if_neg sides]
    by_cases dice : mostDice < expression.count * expression.repetitions
    · simp only [if_pos dice]
      rfl
    · simp only [if_neg dice]
      rfl

/-- An item with a fault is not planned. -/
theorem ofItem_of_fault {item : Item} {fault : Fault}
    (unfit : Expression.fault? item.text = some fault) : ofItem item = .error fault := by
  rw [ofItem, ofText]
  cases read : Expression.parse item.text with
  | error error =>
    rw [Expression.fault?, read] at unfit
    cases unfit
    rfl
  | ok expression =>
    have limits := checkLimits_eq read
    rw [unfit] at limits
    change ((expression.checkLimits item.text).mapError Fault.limit >>= fun _ => _) = _
    rw [limits]
    rfl

/-- An item without one is planned with the expression that its text is read as. -/
theorem ofItem_of_fit {item : Item} (fit : Expression.fault? item.text = none) :
    ∃ planned, ofItem item = .ok planned := by
  rw [ofItem, ofText]
  cases read : Expression.parse item.text with
  | error error =>
    rw [Expression.fault?, read] at fit
    cases fit
  | ok expression =>
    have limits := checkLimits_eq read
    rw [fit] at limits
    refine ⟨⟨item.place, item.aliasName, item.text, expression⟩, ?_⟩
    change ((expression.checkLimits item.text).mapError Fault.limit >>= fun _ => _) = _
    rw [limits]
    rfl

/-- A planned roll is the item that it was asked for, with its expression. -/
theorem item_of_ofItem {item : Item} {planned : PlannedRoll} (done : ofItem item = .ok planned) :
    planned.item = item ∧ Expression.parse planned.text = .ok planned.expression := by
  rw [ofItem, ofText, bind_eq_ok_iff] at done
  obtain ⟨expression, read, done⟩ := done
  obtain ⟨_, -, same⟩ := bind_eq_ok_iff.1 done
  cases same
  exact ⟨rfl, mapError_eq_ok_iff.1 read⟩

/-- Planned rolls are the items that they were asked for, with their expressions. -/
theorem map_item_of_mapM {asked : List Item} {plan : List PlannedRoll}
    (planned : asked.mapM ofItem = .ok plan) :
    plan.map item = asked ∧
      ∀ planned ∈ plan, Expression.parse planned.text = .ok planned.expression :=
  ⟨map_eq_of_mapM (fun _ _ _ done => (item_of_ofItem done).1) planned,
    forall_mem_of_mapM (fun _ _ _ done => (item_of_ofItem done).2) planned⟩

section Argument

variable {store : AliasStore} {place : Nat} {argument : String} {here : List PlannedRoll}

/-- An argument is planned with the texts that it asks for. -/
theorem map_text_of_ofArgument (planned : ofArgument store place argument = .ok here) :
    here.map text = store.textsOf argument := by
  rw [ofArgument_eq_mapM] at planned
  have asked := congrArg (List.map Item.text) (map_item_of_mapM planned).1
  simpa [itemsOf, Function.comp_def, item] using asked

/-- All of them have its place, its name if it is that of an alias, and their expressions. -/
theorem eq_of_mem_ofArgument (planned : ofArgument store place argument = .ok here) :
    ∀ planned ∈ here, planned.place = place ∧
      planned.aliasName = ((store.get? argument).map fun _ => argument) ∧
      Expression.parse planned.text = .ok planned.expression := by
  rw [ofArgument_eq_mapM] at planned
  obtain ⟨asked, read⟩ := map_item_of_mapM planned
  intro planned member
  have item := List.mem_map_of_mem (f := item) member
  rw [asked, itemsOf, List.mem_map] at item
  obtain ⟨_, -, same⟩ := item
  exact ⟨(congrArg Item.place same).symm, (congrArg Item.aliasName same).symm, read planned member⟩

end Argument

variable {store : AliasStore} {place : Nat} {arguments : List String}

/-- The plan fails with the fault of the first text that has one. -/
theorem ofArguments_of_fault {fault : Fault}
    (first : (store.texts arguments).findSome? Expression.fault? = some fault) :
    ofArguments store place arguments = .error fault := by
  rw [← map_text_items store place, List.findSome?_map] at first
  rw [ofArguments_eq_mapM]
  exact mapM_eq_error_of_findSome? (fun _ _ => ofItem_of_fault) (fun _ => ofItem_of_fit) first

variable (place) in
/-- Without such a text there is a plan. -/
theorem exists_plan (fit : (store.texts arguments).findSome? Expression.fault? = none) :
    ∃ plan, ofArguments store place arguments = .ok plan := by
  rw [← map_text_items store place, List.findSome?_map, List.findSome?_eq_none_iff] at fit
  rw [ofArguments_eq_mapM]
  exact exists_mapM_iff.2 fun item member => ofItem_of_fit (fit item member)

/-- Whether there is a plan is decided by the texts alone. -/
theorem exists_plan_iff : (∃ plan, ofArguments store place arguments = .ok plan) ↔
    (store.texts arguments).findSome? Expression.fault? = none := by
  constructor
  · rintro ⟨plan, planned⟩
    cases first : (store.texts arguments).findSome? Expression.fault? with
    | none => rfl
    | some fault => cases planned.symm.trans (ofArguments_of_fault first)
  · exact exists_plan place

/-- A plan holds each text as often as it is asked for, in order, with its expression. -/
theorem map_item_of_ofArguments {plan : List PlannedRoll}
    (planned : ofArguments store place arguments = .ok plan) :
    plan.map item = items store place arguments ∧
      ∀ planned ∈ plan, Expression.parse planned.text = .ok planned.expression := by
  rw [ofArguments_eq_mapM] at planned
  exact map_item_of_mapM planned

/-- Without their places it has the texts alone. -/
theorem map_text_of_ofArguments {plan : List PlannedRoll}
    (planned : ofArguments store place arguments = .ok plan) :
    plan.map text = store.texts arguments := by
  have items := congrArg (List.map Item.text) (map_item_of_ofArguments planned).1
  rwa [map_text_items, List.map_map] at items

end PlannedRoll

end DiceTray
