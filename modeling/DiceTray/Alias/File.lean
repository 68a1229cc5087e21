import DiceTray.Alias.Store
import DiceTray.Json.Writer

/-!
# Alias files

Reading and writing stores. A file holds an object with the sections `aliases` and `colors`; files
in the old format are the bare mapping of names to aliases. Entries that are no aliases are skipped
and logged, and so are wrong colours unless colours are read strictly.
-/

namespace DiceTray.AliasStore

/-- The section of aliases. -/
def aliasSection : String := "aliases"

/-- The section of colours. -/
def colorSection : String := "colors"

/-- A record about a file or an entry. -/
def record (level : Level) (message : String) : Record := ⟨logger, level, message⟩

/-- The text of a stored expression; old files keep it as the member of an object. -/
def expressionText? : Json.Value → Option String
  | .text text => some text
  | value => (value.member? "text").bind Json.Value.text?

/-- The expressions among the items of an entry that are well formed, the others logged. -/
def keepExpressions (name : String) : List Json.Value → Logged Fault (List String)
  | [] => return []
  | item :: rest => do
    match expressionText? item with
    | none =>
      Logged.note (record .warning
        ("Skipping unreadable expression " ++ item.display ++ " in alias " ++ Text.quoted name))
      keepExpressions name rest
    | some text =>
      match Expression.parse text with
      | .error (.number error) => Logged.failed (.number error)
      | .error (.malformed error) =>
        Logged.note (record .warning
          ("Skipping expression in alias " ++ Text.quoted name ++ ": " ++ error.message))
        keepExpressions name rest
      | .ok _ => return text :: (← keepExpressions name rest)

/-- The items of the expressions of an entry, if it has the form of an alias. -/
def entryItems? (entry : Json.Value) : Option (List Json.Value) :=
  (entry.member? "expressions").bind Json.Value.items?

/-- The alias of an entry, if it has a well formed expression. -/
def aliasOfEntry (name : String) (entry : Json.Value) : Logged Fault (Option Alias) := do
  match entryItems? entry with
  | none =>
    Logged.note (record .warning ("Skipping alias " ++ Text.quoted name ++
      ": expected an object with an 'expressions' list"))
    return none
  | some items =>
    let expressions ← keepExpressions name items
    if expressions.isEmpty then
      Logged.note (record .warning
        ("Skipping alias " ++ Text.quoted name ++ ": no valid expressions"))
      return none
    else
      return some ⟨expressions, (entry.member? "comment").bind Json.Value.text?⟩

/-- The aliases of entries, added to those read before. -/
def readAliases (aliases : OrderedMap String Alias) :
    List (String × Json.Value) → Logged Fault (OrderedMap String Alias)
  | [] => return aliases
  | (name, entry) :: rest => do
    match ← aliasOfEntry name entry with
    | some found => readAliases (aliases.insert name found) rest
    | none => readAliases aliases rest

/-- The colours of entries, added to those read before. Read strictly, a wrong colour is an error;
else it is logged and skipped. -/
def readColors (path : String) (strict : Bool) (colors : OrderedMap Role String) :
    List (String × Json.Value) → Logged Fault (OrderedMap Role String)
  | [] => return colors
  | (role, value) :: rest => do
    match checkColor role value with
    | .ok (role, color) => readColors path strict (colors.insert role color) rest
    | .error (.aliases error) =>
      if strict then Logged.failed (.aliases error)
      else
        Logged.note (record .warning ("Ignoring color from " ++ path ++ ": " ++ error.message))
        readColors path strict colors rest
    | .error fault => Logged.failed fault

/-- A document is in the old format when it has a member besides the two sections, or when one of
them has the form of an alias. -/
def isLegacy (members : List (String × Json.Value)) : Bool :=
  members.any fun member =>
    (member.1 ≠ aliasSection && member.1 ≠ colorSection) || (entryItems? member.2).isSome

/-- The members of a section, of which a missing one is empty. -/
def sectionMembers (path : String) (members : List (String × Json.Value)) (name : String) :
    Except Fault (List (String × Json.Value)) :=
  match members.lookup name with
  | none => .ok []
  | some (.object entries) => .ok entries
  | some _ => .error (.aliases (.unreadable path (.sectionNotObject name)))

/-- The store that a document describes. -/
def ofMembers (path : String) (strict : Bool) (members : List (String × Json.Value)) :
    Logged Fault AliasStore := do
  if isLegacy members then
    Logged.note (record .info ("Upgrading legacy alias file " ++ path))
    return { aliases := ← readAliases .empty members, legacy := true }
  else
    let entries ← Logged.ofExcept id (sectionMembers path members aliasSection)
    let choices ← Logged.ofExcept id (sectionMembers path members colorSection)
    let colors ← readColors path strict .empty choices
    return { aliases := ← readAliases .empty entries, colors }

/-- The members of the object that the bytes of a file describe. -/
def membersOfBytes (path : String) (bytes : ByteArray) :
    Except Fault (List (String × Json.Value)) :=
  match Text.decodeUtf8 bytes with
  | .error error => .error (.aliases (.unreadable path (.encoding error)))
  | .ok text =>
    match Json.read (String.ofList (Text.unifyLines text.toList)) with
    | .error (.malformed reason line column position) =>
      .error (.aliases (.unreadable path (.document reason line column position)))
    | .error (.number error) => .error (.number error)
    | .ok (.object members) => .ok members
    | .ok _ => .error (.aliases (.unreadable path .notObject))

/-- Reads the store at a path; where no file is, the store is empty. -/
def load (tree : Files.Tree) (path : Files.Path) (strict : Bool) : Logged Fault AliasStore := do
  if ← Logged.ofExcept .file (tree.isPresent path) then
    let bytes ← Logged.ofExcept .file (tree.read path)
    let members ← Logged.ofExcept id (membersOfBytes path.text bytes)
    let store ← ofMembers path.text strict members
    Logged.note (record .debug
      ("Loaded " ++ toString store.aliases.entries.length ++ " aliases from " ++ path.text))
    return store
  else
    Logged.note (record .debug ("No alias file at " ++ path.text))
    return empty

/-- The entry of an alias. -/
def entryOfAlias (entry : Alias) : Json.Value :=
  .object [("comment", match entry.comment with | some text => .text text | none => .null),
    ("expressions", .list (entry.expressions.map .text))]

/-- The document of a store: the chosen colours, if there are any, and the aliases in the order of
their names. -/
def document (store : AliasStore) : Json.Value :=
  let colors : List (String × Json.Value) :=
    if store.colors.entries.isEmpty then []
    else
      [(colorSection, .object (store.colors.entries.map fun choice =>
        (choice.1.name, .text choice.2)))]
  .object (colors ++ [(aliasSection, .object (store.listing.map fun entry =>
    (entry.1, entryOfAlias entry.2)))])

/-- The bytes of a store's file. -/
def fileBytes (store : AliasStore) : ByteArray :=
  (store.document.write ++ "\n").toUTF8

/-- Writes the store to a path, whose directory is made if it is missing. -/
def save (store : AliasStore) (tree : Files.Tree) (path : Files.Path) :
    Logged Fault AliasStore × Files.Tree :=
  match tree.makeDirectories path.parent with
  | (.error error, tree) => (.failed (.file error), tree)
  | (.ok (), tree) =>
    match tree.write path store.fileBytes with
    | (.error error, tree) => (.failed (.file error), tree)
    | (.ok (), tree) =>
      (⟨[record .debug ("Saved " ++ toString store.aliases.entries.length ++ " aliases to " ++
          path.text)],
        .ok { store with legacy := false }⟩, tree)

end DiceTray.AliasStore
