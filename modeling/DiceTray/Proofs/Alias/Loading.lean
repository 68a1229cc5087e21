import DiceTray.Proofs.Alias.Components
import DiceTray.Proofs.Alias.RoundTrip
import DiceTray.Proofs.Expression.Overlong
import DiceTray.Proofs.Json.Literals

/-!
# What a file is loaded as

What the loader makes of a document, said without its records and without its order of reading: the
entries that are aliases and the colours that are colours are kept, and the first fault, if there is
one, takes the place of all of them. Faults are reported as alias errors, but for numbers that
cannot be read; of these it is said where they stand.
-/

namespace DiceTray

/-- A value, unless there is a fault. -/
def unlessFault {α : Type} (fault? : Option Fault) (value : α) : Except Fault α :=
  match fault? with
  | some fault => .error fault
  | none => .ok value

@[simp] theorem unlessFault_none {α : Type} (value : α) : unlessFault none value = .ok value := rfl

theorem unlessFault_eq_ok_iff {α : Type} {fault? : Option Fault} {value result : α} :
    unlessFault fault? value = .ok result ↔ fault? = none ∧ value = result := by
  cases fault? with
  | none => simp [unlessFault]
  | some fault => simp [unlessFault]

namespace AliasStore

section Specification

/-- The text that is kept of an item of an entry: an expression that is well formed. -/
def keptText? (item : Json.Value) : Option String :=
  (expressionText? item).filter fun text => (Expression.parse text).toOption.isSome

/-- The alias that is kept of an entry: all its expressions that are well formed, if there are any.
-/
def keptAlias? (entry : Json.Value) : Option Alias := do
  let items ← entryItems? entry
  let texts := items.filterMap keptText?
  if texts = [] then none
  else some ⟨texts, (entry.member? "comment").bind Json.Value.text?⟩

/-- The aliases that are kept, by name. -/
def keptAliases (entries : List (String × Json.Value)) : List (String × Alias) :=
  entries.filterMap fun entry => (keptAlias? entry.2).map (entry.1, ·)

/-- The colours that are kept, by role. -/
def keptColors (choices : List (String × Json.Value)) : List (Role × String) :=
  choices.filterMap fun choice => (checkColor choice.1 choice.2).toOption

/-- The fault of an item: a number that is too long to be read. -/
def itemFault? (item : Json.Value) : Option Fault :=
  (expressionText? item).bind fun text =>
    match Expression.parse text with
    | .error (.number error) => some (.number error)
    | _ => none

/-- The fault of an entry. -/
def entryFault? (entry : String × Json.Value) : Option Fault :=
  (entryItems? entry.2).bind (·.findSome? itemFault?)

/-- The fault of a chosen colour: read strictly, any, and else a number that cannot be read. -/
def colorFault? (strict : Bool) (choice : String × Json.Value) : Option Fault :=
  match checkColor choice.1 choice.2 with
  | .ok _ => none
  | .error (.aliases error) => if strict then some (.aliases error) else none
  | .error fault => some fault

/-- The members of a section that is an object. -/
def sectionOf (members : List (String × Json.Value)) (name : String) : List (String × Json.Value) :=
  match members.lookup name with
  | some (.object entries) => entries
  | _ => []

/-- A section that is there but no object. -/
def isWrongSection (members : List (String × Json.Value)) (name : String) : Bool :=
  match members.lookup name with
  | none | some (.object _) => false
  | some _ => true

/-- The first section that is no object; documents in the old format have no sections. -/
def wrongSection? (members : List (String × Json.Value)) : Option String :=
  if isLegacy members then none else [aliasSection, colorSection].find? (isWrongSection members)

/-- The entries of a document. -/
def entriesOf (members : List (String × Json.Value)) : List (String × Json.Value) :=
  if isLegacy members then members else sectionOf members aliasSection

/-- The chosen colours of a document. -/
def choicesOf (members : List (String × Json.Value)) : List (String × Json.Value) :=
  if isLegacy members then [] else sectionOf members colorSection

/-- The store of all that can be used of a document. -/
def usable (members : List (String × Json.Value)) : AliasStore where
  aliases := .ofList (keptAliases (entriesOf members))
  colors := .ofList (keptColors (choicesOf members))
  legacy := isLegacy members

/-- The first fault of a document. -/
def membersFault? (path : String) (strict : Bool) (members : List (String × Json.Value)) :
    Option Fault :=
  ((wrongSection? members).map fun name => .aliases (.unreadable path (.sectionNotObject name))).or
    (((choicesOf members).findSome? (colorFault? strict)).or
      ((entriesOf members).findSome? entryFault?))

end Specification

section Outcomes

theorem outcome_keepExpressions (name : String) (items : List Json.Value) :
    (keepExpressions name items).outcome =
      unlessFault (items.findSome? itemFault?) (items.filterMap keptText?) := by
  induction items with
  | nil => rfl
  | cons item rest inductionHypothesis =>
    rw [keepExpressions, List.findSome?_cons, List.filterMap_cons]
    split
    · next unreadable =>
      have spared : itemFault? item = none := by rw [itemFault?, unreadable, Option.bind_none]
      have dropped : keptText? item = none := by rw [keptText?, unreadable, Option.filter_none]
      rw [spared, dropped, Logged.outcome_bind, Logged.outcome_note, ok_bind]
      exact inductionHypothesis
    · next text given =>
      rw [itemFault?, keptText?, given, Option.bind_some, Option.filter_some]
      rcases Expression.parse text with error | expression
      · cases error with
        | number error => rfl
        | malformed error =>
          dsimp only
          rw [Logged.outcome_bind, Logged.outcome_note, ok_bind]
          exact inductionHypothesis
      · dsimp only
        rw [Logged.outcome_bind, inductionHypothesis]
        cases rest.findSome? itemFault? <;> rfl

theorem outcome_aliasOfEntry (name : String) (entry : Json.Value) :
    (aliasOfEntry name entry).outcome =
      unlessFault (entryFault? (name, entry)) (keptAlias? entry) := by
  rw [aliasOfEntry, entryFault?, keptAlias?]
  dsimp only
  cases entryItems? entry with
  | none => rfl
  | some items =>
    rw [Logged.outcome_bind, outcome_keepExpressions]
    cases found : items.findSome? itemFault? with
    | some fault =>
      rw [Option.bind_some, found]
      rfl
    | none =>
      rw [Option.bind_some, found, unlessFault, ok_bind, Option.bind_eq_bind, Option.bind_some]
      split
      · next empty =>
        rw [if_pos (List.isEmpty_iff.1 empty)]
        rfl
      · next present =>
        rw [if_neg fun empty => present (List.isEmpty_iff.2 empty)]
        rfl

theorem outcome_readAliases (aliases : OrderedMap String Alias)
    (entries : List (String × Json.Value)) :
    (readAliases aliases entries).outcome =
      unlessFault (entries.findSome? entryFault?)
        (aliases.insertAll (keptAliases entries)) := by
  induction entries generalizing aliases with
  | nil => rfl
  | cons entry rest inductionHypothesis =>
    obtain ⟨name, entry⟩ := entry
    rw [readAliases, Logged.outcome_bind, outcome_aliasOfEntry, List.findSome?_cons, keptAliases,
      List.filterMap_cons]
    dsimp only
    cases entryFault? (name, entry) with
    | some fault => rfl
    | none =>
      rw [unlessFault, ok_bind]
      cases keptAlias? entry with
      | none => exact inductionHypothesis aliases
      | some found => exact inductionHypothesis (aliases.insert name found)

theorem outcome_readColors (path : String) (strict : Bool) (colors : OrderedMap Role String)
    (choices : List (String × Json.Value)) :
    (readColors path strict colors choices).outcome =
      unlessFault (choices.findSome? (colorFault? strict))
        (colors.insertAll (keptColors choices)) := by
  induction choices generalizing colors with
  | nil => rfl
  | cons choice rest inductionHypothesis =>
    obtain ⟨name, value⟩ := choice
    rw [readColors, List.findSome?_cons, keptColors, List.filterMap_cons, colorFault?]
    dsimp only
    split
    · next role color checked =>
      rw [checked]
      exact inductionHypothesis (colors.insert role color)
    · next error refused =>
      rw [refused]
      cases strict with
      | true => rfl
      | false =>
        rw [if_neg Bool.false_ne_true, Logged.outcome_bind, Logged.outcome_note, ok_bind]
        exact inductionHypothesis colors
    · next fault other stopped =>
      rw [stopped]
      cases fault with
      | aliases error => exact absurd rfl (other error)
      | _ => rfl

theorem sectionMembers_eq (path : String) (members : List (String × Json.Value)) (name : String) :
    sectionMembers path members name =
      unlessFault (if isWrongSection members name then
          some (.aliases (.unreadable path (.sectionNotObject name))) else none)
        (sectionOf members name) := by
  rw [sectionMembers, isWrongSection, sectionOf]
  rcases members.lookup name with - | value
  · rfl
  · cases value <;> rfl

/-- What comes of a document is the store of all that can be used of it, or its first fault. -/
theorem outcome_ofMembers (path : String) (strict : Bool) (members : List (String × Json.Value)) :
    (ofMembers path strict members).outcome =
      unlessFault (membersFault? path strict members) (usable members) := by
  rw [ofMembers, membersFault?, wrongSection?, choicesOf, entriesOf, usable, choicesOf, entriesOf]
  split
  · next legacy =>
    simp only [Logged.outcome_bind, Logged.outcome_note, ok_bind, outcome_readAliases, legacy]
    cases members.findSome? entryFault? <;> rfl
  · next current =>
    simp only [Logged.outcome_bind, Logged.outcome_ofExcept, mapError_id, sectionMembers_eq,
      outcome_readColors, outcome_readAliases]
    rw [Bool.eq_false_iff.2 current, List.find?_cons, List.find?_cons, List.find?_nil]
    cases isWrongSection members aliasSection with
    | true => rfl
    | false =>
      cases isWrongSection members colorSection with
      | true => rfl
      | false =>
        simp only [Bool.false_eq_true, if_false, unlessFault_none, ok_bind]
        cases (sectionOf members colorSection).findSome? (colorFault? strict) with
        | some fault => rfl
        | none => cases (sectionOf members aliasSection).findSome? entryFault? <;> rfl

end Outcomes

end AliasStore

end DiceTray
