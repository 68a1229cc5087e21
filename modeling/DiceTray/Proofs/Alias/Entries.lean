import DiceTray.Proofs.Alias.Colors

/-!
# Entries that are kept

An entry is an alias when it has a list of expressions, and one of them can be read. Loading a file
keeps these entries and no others, each with all its expressions that can be read, in their order.
It does so in both formats, so a document in the old format has the aliases that it has as a section
of a document in the new one.
-/

namespace DiceTray.AliasStore

open Files Text

/-- An item that carries the text of an expression, as the text itself or as a member of that name.
-/
inductive Carries : Json.Value → String → Prop
  /-- The item is the text. -/
  | text {text : String} {expression : Expression} (read : Expression.parse text = .ok expression) :
      Carries (.text text) text
  /-- The item is an object with the text. -/
  | member {fields : List (String × Json.Value)} {text : String} {expression : Expression}
      (given : fields.lookup "text" = some (.text text))
      (read : Expression.parse text = .ok expression) : Carries (.object fields) text

/-- Items with the texts that they carry, in the order of the items. -/
inductive CarryAll : List Json.Value → List String → Prop
  | nil : CarryAll [] []
  | keep {item : Json.Value} {text : String} {items : List Json.Value} {texts : List String}
      (first : Carries item text) (rest : CarryAll items texts) :
      CarryAll (item :: items) (text :: texts)
  | skip {item : Json.Value} {items : List Json.Value} {texts : List String}
      (first : ∀ text, ¬ Carries item text) (rest : CarryAll items texts) :
      CarryAll (item :: items) texts

/-- An entry is an alias: its expressions are a list, an item of which carries a text. -/
def IsAlias (entry : Json.Value) : Prop :=
  ∃ fields items, entry = .object fields ∧ fields.lookup "expressions" = some (.list items) ∧
    ∃ item ∈ items, ∃ text, Carries item text

/-- An entry with its alias, which has the texts that the items carry, and the comment if that is a
text. -/
inductive Describes : Json.Value → Alias → Prop
  /-- The entry is an object with a list of expressions. -/
  | entry {fields : List (String × Json.Value)} {items : List Json.Value} {held : Alias}
      (listed : fields.lookup "expressions" = some (.list items))
      (texts : CarryAll items held.expressions)
      (comment : ∀ text, held.comment = some text ↔ fields.lookup "comment" = some (.text text)) :
      Describes (.object fields) held

section Entry

variable {entry item : Json.Value} {items : List Json.Value}

theorem member?_eq_some_iff {value found : Json.Value} {name : String} :
    value.member? name = some found ↔
      ∃ fields, value = .object fields ∧ fields.lookup name = some found := by
  cases value <;> simp [Json.Value.member?]

theorem text?_eq_some_iff {value : Json.Value} {text : String} :
    value.text? = some text ↔ value = .text text := by
  cases value <;> simp [Json.Value.text?]

theorem items?_eq_some_iff {value : Json.Value} :
    value.items? = some items ↔ value = .list items := by
  cases value <;> simp [Json.Value.items?]

theorem textMember?_eq_some_iff {value : Json.Value} {name text : String} :
    (value.member? name).bind Json.Value.text? = some text ↔
      ∃ fields, value = .object fields ∧ fields.lookup name = some (.text text) := by
  rw [Option.bind_eq_some_iff]
  simp only [member?_eq_some_iff, text?_eq_some_iff]
  constructor
  · rintro ⟨_, object, rfl⟩
    exact object
  · exact fun object => ⟨.text text, object, rfl⟩

theorem entryItems?_eq_some_iff : entryItems? entry = some items ↔
    ∃ fields, entry = .object fields ∧ fields.lookup "expressions" = some (.list items) := by
  rw [entryItems?, Option.bind_eq_some_iff]
  simp only [member?_eq_some_iff, items?_eq_some_iff]
  constructor
  · rintro ⟨_, object, rfl⟩
    exact object
  · exact fun object => ⟨.list items, object, rfl⟩

theorem keptText?_eq_some_iff {text : String} : keptText? item = some text ↔ Carries item text := by
  rw [keptText?, Option.filter_eq_some_iff]
  constructor
  · rintro ⟨given, readable⟩
    cases read : Expression.parse text with
    | error error =>
      rw [read] at readable
      cases readable
    | ok expression =>
      rw [expressionText?.eq_def] at given
      split at given
      · cases given
        exact .text read
      · obtain ⟨fields, rfl, member⟩ := textMember?_eq_some_iff.1 given
        exact .member member read
  · intro carries
    cases carries with
    | text read => exact ⟨rfl, by rw [read]; rfl⟩
    | member given read => exact ⟨textMember?_eq_some_iff.2 ⟨_, rfl, given⟩, by rw [read]; rfl⟩

theorem carryAll_filterMap (items : List Json.Value) :
    CarryAll items (items.filterMap keptText?) := by
  induction items with
  | nil => exact .nil
  | cons item rest inductionHypothesis =>
    cases kept : keptText? item with
    | none =>
      rw [List.filterMap_cons_none kept]
      refine .skip (fun text carries => ?_) inductionHypothesis
      cases kept.symm.trans (keptText?_eq_some_iff.2 carries)
    | some text =>
      rw [List.filterMap_cons_some kept]
      exact .keep (keptText?_eq_some_iff.1 kept) inductionHypothesis

theorem describes_of_keptAlias? {held : Alias} (kept : keptAlias? entry = some held) :
    Describes entry held := by
  obtain ⟨items, listed, kept⟩ := Option.bind_eq_some_iff.1 kept
  obtain ⟨fields, rfl, member⟩ := entryItems?_eq_some_iff.1 listed
  dsimp only at kept
  split at kept
  · cases kept
  · cases kept
    refine .entry member (carryAll_filterMap items) fun text => ?_
    rw [textMember?_eq_some_iff]
    constructor
    · rintro ⟨_, same, comment⟩
      cases same
      exact comment
    · exact fun comment => ⟨fields, rfl, comment⟩

theorem isSome_keptAlias?_iff : (keptAlias? entry).isSome = true ↔ IsAlias entry := by
  have present_iff (items : List Json.Value) : items.filterMap keptText? ≠ [] ↔
      ∃ item ∈ items, ∃ text, Carries item text := by
    simp only [ne_eq, List.filterMap_eq_nil_iff, not_forall, Option.ne_none_iff_exists',
      keptText?_eq_some_iff, exists_prop]
  rw [Option.isSome_iff_exists]
  constructor
  · rintro ⟨held, kept⟩
    obtain ⟨items, listed, kept⟩ := Option.bind_eq_some_iff.1 kept
    obtain ⟨fields, same, member⟩ := entryItems?_eq_some_iff.1 listed
    dsimp only at kept
    split at kept
    · cases kept
    · next present => exact ⟨fields, items, same, member, (present_iff items).1 present⟩
  · rintro ⟨fields, items, same, member, carried⟩
    rw [keptAlias?, entryItems?_eq_some_iff.2 ⟨fields, same, member⟩]
    dsimp only [Option.bind_eq_bind, Option.bind_some]
    rw [if_neg ((present_iff items).2 carried)]
    exact ⟨_, rfl⟩

end Entry

section Aliases

variable {members : List (String × Json.Value)}

/-- Of entries with different names, the alias of a name is the one that the entry of that name
gives. -/
theorem lookup_keptAliases {entries : List (String × Json.Value)}
    (distinct : (entries.map Prod.fst).Nodup) (name : String) :
    (keptAliases entries).lookup name = (entries.lookup name).bind keptAlias? := by
  induction entries with
  | nil => rfl
  | cons entry rest inductionHypothesis =>
    obtain ⟨first, value⟩ := entry
    obtain ⟨fresh, distinct⟩ := List.nodup_cons.1 distinct
    have later := inductionHypothesis distinct
    rw [lookup_entry]
    rw [keptAliases] at later ⊢
    cases kept : keptAlias? value with
    | none =>
      rw [List.filterMap_cons_none (by rw [kept]; rfl), later]
      split
      · next here =>
        rw [here, Option.bind_some, kept, List.lookup_eq_none_iff.2 ?_, Option.bind_none]
        exact fun other among => bne_iff_ne.2 fun same =>
          fresh (List.mem_map.2 ⟨other, among, same.symm⟩)
      · rfl
    | some held =>
      rw [List.filterMap_cons_some (by rw [kept]; rfl), lookup_entry, later]
      split
      · rw [Option.bind_some, kept]
      · rfl

theorem get?_keptAliases {entries : List (String × Json.Value)}
    (distinct : (entries.map Prod.fst).Nodup) (name : String) :
    (OrderedMap.ofList (keptAliases entries)).get? name =
      (entries.lookup name).bind keptAlias? := by
  rw [← lookup_keptAliases distinct, OrderedMap.get?, OrderedMap.entries_ofList]
  have named : (keptAliases entries).map Prod.fst =
      entries.filterMap fun entry => (keptAlias? entry.2).map fun _ => entry.1 := by
    rw [keptAliases, List.map_filterMap]
    simp only [Option.map_map, Function.comp_def]
  rw [named]
  refine distinct.sublist (filterMap_sublist_map (fun entry name kept => ?_) entries)
  obtain ⟨_, -, same⟩ := Option.map_eq_some_iff.1 kept
  exact same.symm

/-- What the aliases of a document are loaded as. -/
theorem outcome_aliases {text : String} {strict : Bool} (sections : wrongSection? members = none)
    (colorless : choicesOf members = []) :
    (unlessFault (membersFault? text strict members) (usable members)).map AliasStore.aliases =
      unlessFault ((entriesOf members).findSome? entryFault?)
        (.ofList (keptAliases (entriesOf members))) := by
  rw [membersFault?, sections, colorless, List.findSome?_nil, Option.map_none, Option.none_or,
    Option.none_or]
  cases (entriesOf members).findSome? entryFault? <;> rfl

end Aliases

section Upgrade

variable {members : List (String × Json.Value)}

/-- A document in the old format as a section of one in the new format. -/
def upgraded (members : List (String × Json.Value)) : List (String × Json.Value) :=
  [(aliasSection, .object members)]

theorem isLegacy_upgraded (unlisted : ∀ items, members.lookup "expressions" ≠ some (.list items)) :
    isLegacy (upgraded members) = false := by
  have formless : entryItems? (.object members) = none := by
    refine Option.eq_none_iff_forall_ne_some.2 fun items listed => ?_
    obtain ⟨_, same, member⟩ := entryItems?_eq_some_iff.1 listed
    cases same
    exact unlisted items member
  rw [isLegacy, upgraded, List.any_cons, List.any_nil, formless]
  rfl

/-- The entries of a document in the old format are those of its upgrade, and neither has colours.
-/
theorem sections_upgraded (legacy : isLegacy members = true)
    (current : isLegacy (upgraded members) = false) :
    entriesOf (upgraded members) = entriesOf members ∧
      (wrongSection? members = none ∧ choicesOf members = []) ∧
      wrongSection? (upgraded members) = none ∧ choicesOf (upgraded members) = [] := by
  rw [entriesOf, entriesOf, wrongSection?, wrongSection?, choicesOf, choicesOf, legacy, current]
  exact ⟨rfl, ⟨rfl, rfl⟩, rfl, rfl⟩

end Upgrade

section Loading

variable {tree : Tree} {path : Path} {location : Location} {bytes : ByteArray} {strict : Bool}
  {members : List (String × Json.Value)}

theorem lookup_reverse {written : List (String × Json.Value)}
    (same : entriesOf members = (OrderedMap.ofList written).entries) (name : String) :
    written.reverse.lookup name = (entriesOf members).lookup name := by
  rw [same, ← OrderedMap.get?_ofList]
  rfl

/-- Where a store is loaded, a name has the alias that its last entry describes. -/
theorem get?_of_load {store : AliasStore} {written : List (String × Json.Value)}
    (located : tree.locate path = .ok location)
    (found : tree.get? location = some (.file bytes))
    (document : Documents bytes (.object members))
    (same : entriesOf members = (OrderedMap.ofList written).entries)
    (loaded : (load tree path strict).outcome = .ok store) (name : String) :
    store.get? name = (written.reverse.lookup name).bind keptAlias? := by
  rw [load_of_documents located found document] at loaded
  obtain ⟨-, rfl⟩ := unlessFault_eq_ok_iff.1 loaded
  rw [lookup_reverse same]
  exact get?_keptAliases (same ▸ (OrderedMap.ofList written).nodup_keys) name

/-- A file whose sections are objects, whose expressions have numbers that can be read, and whose
colours are colours if it is read strictly, is loaded exactly when none of its colours is garbled.
The store then has the names whose last entry in the file is an alias, and for each of them the
alias that this entry describes. An object in the old format that has no list as its member
`expressions` is loaded with the same aliases, in the same order, when a file has it as its section
of aliases. -/
theorem load_keeps_described_aliases (strict : Bool) (located : tree.locate path = .ok location)
    (found : tree.get? location = some (.file bytes))
    (document : Documents bytes (.object members)) :
    (wrongSection? members = none → NumbersFit (entriesOf members) →
      (strict = true → ∀ choice ∈ choicesOf members, (usableColor? choice).isSome) →
      ((∃ store, (load tree path strict).outcome = .ok store) ↔
        ∀ choice ∈ choicesOf members, ¬ Garbled choice) ∧
      ∃ text written, decodeUtf8 bytes = .ok text ∧
        Json.Listed (unified text).toList written ∧
        entriesOf members = (OrderedMap.ofList written).entries ∧
        ∀ store, (load tree path strict).outcome = .ok store → ∀ name,
          (store.contains name = true ↔
            ∃ entry, written.reverse.lookup name = some entry ∧ IsAlias entry) ∧
          ∀ held, store.get? name = some held →
            ∃ entry, written.reverse.lookup name = some entry ∧ Describes entry held) ∧
    (isLegacy members = true →
      (∀ items, members.lookup "expressions" ≠ some (.list items)) →
      ∀ (other : Tree) (way : Path) (place : Location) (contents : ByteArray) (mode : Bool),
        other.locate way = .ok place → other.get? place = some (.file contents) →
        Documents contents (.object (upgraded members)) →
        (load other way mode).outcome.map AliasStore.aliases =
          (load tree path strict).outcome.map AliasStore.aliases) := by
  refine ⟨fun sections fit colors => ⟨?_, ?_⟩, fun legacy unlisted other way place contents mode
    located' found' document' => ?_⟩
  · exact exists_load_iff located found document sections fit colors
  · obtain ⟨text, decoded, resolved⟩ := exists_resolved document
    obtain ⟨written, listed, same⟩ := exists_listed_entries resolved
    refine ⟨text, written, decoded, listed, same, fun store loaded name => ?_⟩
    have kept := get?_of_load located found document same loaded name
    constructor
    · rw [contains, OrderedMap.contains, ← get?, kept, Option.isSome_iff_exists]
      constructor
      · rintro ⟨held, given⟩
        obtain ⟨entry, last, given⟩ := Option.bind_eq_some_iff.1 given
        exact ⟨entry, last, isSome_keptAlias?_iff.1 (given ▸ rfl)⟩
      · rintro ⟨entry, last, stands⟩
        obtain ⟨held, given⟩ := Option.isSome_iff_exists.1 (isSome_keptAlias?_iff.2 stands)
        exact ⟨held, Option.bind_eq_some_iff.2 ⟨entry, last, given⟩⟩
    · intro held stored
      obtain ⟨entry, last, given⟩ := Option.bind_eq_some_iff.1 (kept ▸ stored)
      exact ⟨entry, last, describes_of_keptAlias? given⟩
  · rw [load_of_documents located' found' document', load_of_documents located found document]
    obtain ⟨entries, before, after⟩ := sections_upgraded legacy (isLegacy_upgraded unlisted)
    rw [outcome_aliases after.1 after.2, outcome_aliases before.1 before.2, entries]

end Loading

section Cases

/-- The bytes of a file with the written form of an object. -/
def fileOf (members : List (String × Json.Value)) : ByteArray :=
  ((Json.Value.object members).write ++ "\n").toUTF8

theorem documents_fileOf {members : List (String × Json.Value)}
    (textual : Json.Textual (.object members)) : Documents (fileOf members) (.object members) :=
  ⟨_, decodeUtf8_toUTF8 _, textual.read_write⟩

/-- An object in the old format: an entry with a comment, and with a text and an object with a text
among its items, and an entry none of whose items is an expression. -/
def relic : List (String × Json.Value) :=
  [("elf", .object [("comment", .text "bow"),
      ("expressions", .list [.text "2d4", .null, .object [("text", .text "d6")]])]),
    ("owl", .object [("expressions", .list [.text "d"])])]

theorem textual_relic : Json.Textual (.object relic) := by
  refine .object (by decide) (List.forall_mem_cons.2 ⟨.object (by decide) ?_, ?_⟩)
  · refine List.forall_mem_cons.2 ⟨.text _, List.forall_mem_singleton.2 (.list ?_)⟩
    refine List.forall_mem_cons.2 ⟨.text _, List.forall_mem_cons.2 ⟨.null, ?_⟩⟩
    exact List.forall_mem_singleton.2 (.object (by decide) (List.forall_mem_singleton.2 (.text _)))
  · exact List.forall_mem_singleton.2 (.object (by decide) (List.forall_mem_singleton.2
      (.list (List.forall_mem_singleton.2 (.text _)))))

/-- The one alias of that object is loaded, and the upgrade of the object has the same aliases. -/
theorem load_keeps_described_aliases_of_relic :
    Documents (fileOf relic) (.object relic) ∧
    Documents (fileOf (upgraded relic)) (.object (upgraded relic)) ∧
    isLegacy relic = true ∧ NumbersFit (entriesOf relic) ∧
    (∀ items, relic.lookup "expressions" ≠ some (.list items)) ∧
    ∃ store, (load (treeOf (fileOf relic)) (.ofString "f") true).outcome = .ok store ∧
      store.contains "elf" = true ∧ store.contains "owl" = false ∧
      (load (treeOf (fileOf (upgraded relic))) (.ofString "f") false).outcome.map
        AliasStore.aliases = .ok store.aliases := by
  have document := documents_fileOf textual_relic
  have document' : Documents (fileOf (upgraded relic)) (.object (upgraded relic)) :=
    documents_fileOf (.object (by decide) (List.forall_mem_singleton.2 textual_relic))
  have legacy : isLegacy relic = true := by decide
  have fit : NumbersFit (entriesOf relic) := numbersFit_iff.2 (by decide +kernel)
  have unlisted : ∀ items, relic.lookup "expressions" ≠ some (.list items) := nofun
  obtain ⟨keeps, upgrade⟩ := load_keeps_described_aliases true (locate_treeOf (fileOf relic)) rfl
    document
  obtain ⟨loads, _, written, -, -, same, agrees⟩ := keeps rfl fit nofun
  obtain ⟨store, loaded⟩ := loads.2 nofun
  have aliases := upgrade legacy unlisted _ _ _ _ false (locate_treeOf _) rfl document'
  refine ⟨document, document', legacy, fit, unlisted, store, loaded, ?_, ?_, ?_⟩
  · refine (agrees store loaded "elf").1.2 ⟨_, lookup_reverse same "elf", ?_⟩
    exact isSome_keptAlias?_iff.1 (by decide +kernel)
  · refine Bool.eq_false_iff.2 fun present => ?_
    obtain ⟨entry, last, stands⟩ := (agrees store loaded "owl").1.1 present
    cases (lookup_reverse same "owl").symm.trans last
    exact absurd (isSome_keptAlias?_iff.2 stands) (by decide +kernel)
  · rw [aliases, loaded]
    rfl

/-- A file with an alias, and with a colour of three components, one of which has a space between
its digits. -/
def veiled : ByteArray :=
  ("\x7b\"aliases\": \x7b\"x\": \x7b\"expressions\": [\"d6\"]\x7d\x7d, " ++
    "\"colors\": \x7b\"high\": \"rgb(1 2,3,4)\"\x7d\x7d").toUTF8

/-- An entry of that file is an alias, but not even leniently is the file loaded. -/
theorem spaced_component_hides_aliases :
    (∃ members, Documents veiled (.object members) ∧ wrongSection? members = none ∧
      NumbersFit (entriesOf members) ∧
      ∃ entry, (entriesOf members).lookup "x" = some entry ∧ IsAlias entry) ∧
    ¬ ∃ store, (load (treeOf veiled) (.ofString "f") false).outcome = .ok store := by
  obtain ⟨members, document, sections, spared, kept⟩ :
      ∃ members, Documents veiled (.object members) ∧ wrongSection? members = none ∧
        (entriesOf members).findSome? entryFault? = none ∧
        (((entriesOf members).lookup "x").bind keptAlias?).isSome = true := by
    apply exists_document
    decide +kernel
  have stopped : (load (treeOf veiled) (.ofString "f") false).outcome.toOption.isSome = false := by
    decide +kernel
  obtain ⟨held, kept⟩ := Option.isSome_iff_exists.1 kept
  obtain ⟨entry, last, kept⟩ := Option.bind_eq_some_iff.1 kept
  exact ⟨⟨members, document, sections, numbersFit_iff.2 spared, entry, last,
    isSome_keptAlias?_iff.1 (kept ▸ rfl)⟩, not_exists_ok stopped⟩

end Cases

end DiceTray.AliasStore
