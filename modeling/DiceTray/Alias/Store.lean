import DiceTray.Alias.Color
import DiceTray.Expression.Reader
import DiceTray.Journal

/-!
# Alias stores

Names for lists of expressions, and the colours chosen for the two roles. Whatever is put into a
store is checked first, so an operation that fails leaves nothing behind.
-/

namespace DiceTray

/-- A named list of expressions. -/
structure Alias where
  expressions : List String
  comment : Option String := none
deriving DecidableEq, Repr

/-- The aliases and colours of a profile. -/
structure AliasStore where
  aliases : OrderedMap String Alias := .empty
  /-- The colours that were chosen. -/
  colors : OrderedMap Role String := .empty
  /-- The store was read from a file in the old format and not saved since. -/
  legacy : Bool := false

namespace AliasStore

/-- The name under which stores log. -/
def logger : String := "dice_notation.aliases"

/-- The store without aliases and colours. -/
def empty : AliasStore := {}

/-- The alias with a name. -/
def get? (store : AliasStore) (name : String) : Option Alias := store.aliases.get? name

/-- Whether there is an alias with a name. -/
def contains (store : AliasStore) (name : String) : Bool := store.aliases.contains name

/-- Checks that every text is an expression. -/
def checkExpressions : List String → Except Fault Unit
  | [] => .ok ()
  | text :: rest =>
    match Expression.parse text with
    | .ok _ => checkExpressions rest
    | .error error => .error (.ofExpression error)

/-- Stores an alias under its trimmed name, in place of one with the same name. Every expression
must be well formed. -/
def add (store : AliasStore) (name : String) (expressions : List String)
    (comment : Option String) : Logged Fault (AliasStore × Alias) := do
  let name := Text.trim name
  if name.isEmpty then Logged.failed (.aliases .emptyName)
  else
    let texts := expressions.map Text.trim
    if texts.isEmpty then Logged.failed (.aliases .noExpressions)
    else
      Logged.ofExcept id (checkExpressions texts)
      if store.contains name then
        Logged.note ⟨logger, .info, "Replacing alias " ++ Text.quoted name⟩
      let added : Alias := ⟨texts, comment⟩
      return ({ store with aliases := store.aliases.insert name added }, added)

/-- Removes the alias with exactly the given name. -/
def remove (store : AliasStore) (name : String) : Except Fault (AliasStore × Alias) :=
  match store.get? name with
  | some removed => .ok ({ store with aliases := store.aliases.erase name }, removed)
  | none => .error (.aliases (.unknownAlias name))

/-- The aliases in the order of their names. -/
def listing (store : AliasStore) : List (String × Alias) :=
  store.aliases.entries.mergeSort fun left right => left.1 ≤ right.1

/-- Chooses a colour for a role. -/
def setColor (store : AliasStore) (role : String) (color : Json.Value) :
    Except Fault AliasStore := do
  let (role, color) ← checkColor role color
  return { store with colors := store.colors.insert role color }

/-- The colour of a role: the chosen one, else the default. -/
def color (store : AliasStore) (role : Role) : String :=
  (store.colors.get? role).getD role.defaultColor

/-- The colours in use: the defaults, with the chosen colours in their places. -/
def highlightColors (store : AliasStore) : List (Role × String) :=
  (defaultColors.merge store.colors).entries

end AliasStore

end DiceTray
