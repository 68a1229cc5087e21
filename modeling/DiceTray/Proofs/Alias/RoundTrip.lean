import DiceTray.Proofs.Alias.Validity
import DiceTray.Proofs.Files.Directories
import DiceTray.Proofs.Json.RoundTrip

/-!
# Loading undoes saving

The document of a store is read back, is not taken for one in the old format, and passes every check
of the loader when the store is valid. What is written depends on the aliases by name alone, so the
store that was loaded is saved to the same bytes.
-/

namespace DiceTray.AliasStore

section Document

/-- The members of the section of colours. -/
def colorMembers (store : AliasStore) : List (String × Json.Value) :=
  store.colors.entries.map fun choice => (choice.1.name, .text choice.2)

/-- The members of the section of aliases. -/
def aliasMembers (store : AliasStore) : List (String × Json.Value) :=
  store.listing.map fun entry => (entry.1, entryOfAlias entry.2)

/-- The sections of a store's document. -/
def sections (store : AliasStore) : List (String × Json.Value) :=
  (if store.colors.entries.isEmpty then [] else [(colorSection, .object store.colorMembers)]) ++
    [(aliasSection, .object store.aliasMembers)]

theorem document_eq (store : AliasStore) : store.document = .object store.sections := rfl

theorem listing_perm (store : AliasStore) : store.listing.Perm store.aliases.entries :=
  List.mergeSort_perm _ _

theorem nodup_names_listing (store : AliasStore) : (store.listing.map Prod.fst).Nodup :=
  (store.listing_perm.map Prod.fst).nodup_iff.2 store.aliases.nodup_keys

theorem textual_entryOfAlias (entry : Alias) : Json.Textual (entryOfAlias entry) := by
  refine .object (by simp) ?_
  simp only [List.forall_mem_cons, List.not_mem_nil, false_imp_iff, implies_true, and_true]
  constructor
  · cases entry.comment with
    | none => exact .null
    | some comment => exact .text comment
  · refine .list fun item member => ?_
    obtain ⟨text, -, rfl⟩ := List.mem_map.1 member
    exact .text text

theorem textual_colorMembers (store : AliasStore) : Json.Textual (.object store.colorMembers) := by
  refine .object ?_ fun member present => ?_
  · have names : store.colorMembers.map Prod.fst =
        (store.colors.entries.map Prod.fst).map Role.name := by
      simp [colorMembers]
    rw [names]
    refine store.colors.nodup_keys.map fun role other same => ?_
    have found := congrArg Role.ofName? same
    rwa [Role.ofName?_name, Role.ofName?_name, Option.some.injEq] at found
  · obtain ⟨choice, -, rfl⟩ := List.mem_map.1 present
    exact .text choice.2

theorem textual_aliasMembers (store : AliasStore) : Json.Textual (.object store.aliasMembers) := by
  refine .object ?_ fun member present => ?_
  · have names : store.aliasMembers.map Prod.fst = store.listing.map Prod.fst := by
      simp [aliasMembers]
    rw [names]
    exact store.nodup_names_listing
  · obtain ⟨entry, -, rfl⟩ := List.mem_map.1 present
    exact textual_entryOfAlias entry.2

/-- The document of a store holds no numbers, and no name twice. -/
theorem textual_document (store : AliasStore) : Json.Textual store.document := by
  have colors := store.textual_colorMembers
  have aliases := store.textual_aliasMembers
  rw [document_eq, sections]
  split
  · exact .object (by simp) (by simpa using aliases)
  · exact .object (by simp [colorSection, aliasSection]) (by simp [colors, aliases])

/-- The bytes of a store's file describe its sections. -/
theorem membersOfBytes_fileBytes (store : AliasStore) (path : String) :
    membersOfBytes path store.fileBytes = .ok store.sections := by
  rw [membersOfBytes, fileBytes, Text.decodeUtf8_toUTF8]
  simp only [store.textual_document.read_write]
  rfl

end Document

section Sections

/-- No section of a store has the form of an alias, whatever the names of its members are. -/
theorem entryItems?_section {members : List (String × Json.Value)}
    (single : ∀ member ∈ members, member.2.items? = none) :
    entryItems? (.object members) = none := by
  rw [entryItems?, Json.Value.member?]
  cases found : members.lookup "expressions" with
  | none => rfl
  | some value =>
    obtain ⟨before, after, split, -⟩ := List.lookup_eq_some_iff.1 found
    exact single ("expressions", value) (by simp [split])

theorem isLegacy_sections (store : AliasStore) : isLegacy store.sections = false := by
  have colors : entryItems? (.object store.colorMembers) = none :=
    entryItems?_section fun member present => by
      obtain ⟨choice, -, rfl⟩ := List.mem_map.1 present
      rfl
  have aliases : entryItems? (.object store.aliasMembers) = none :=
    entryItems?_section fun member present => by
      obtain ⟨entry, -, rfl⟩ := List.mem_map.1 present
      rfl
  rw [isLegacy, sections]
  split <;> simp [colors, aliases]

theorem lookup_aliasSection (store : AliasStore) :
    store.sections.lookup aliasSection = some (.object store.aliasMembers) := by
  rw [sections]
  split <;> rfl

theorem lookup_colorSection (store : AliasStore) : store.sections.lookup colorSection =
    if store.colors.entries.isEmpty then none else some (.object store.colorMembers) := by
  rw [sections]
  split <;> rfl

theorem sectionMembers_aliases (store : AliasStore) (path : String) :
    sectionMembers path store.sections aliasSection = .ok store.aliasMembers := by
  rw [sectionMembers, lookup_aliasSection]

/-- Without a section there are no colours. -/
theorem sectionMembers_colors (store : AliasStore) (path : String) :
    sectionMembers path store.sections colorSection = .ok store.colorMembers := by
  rw [sectionMembers, lookup_colorSection]
  by_cases missing : store.colors.entries.isEmpty = true
  · have empty : store.colorMembers = [] := by
      rw [colorMembers, List.isEmpty_iff.1 missing]
      rfl
    rw [if_pos missing, empty]
  · rw [if_neg missing]

/-- Colours that are colours are read back in their order. -/
theorem readColors_map (path : String) (strict : Bool) {choices : List (Role × String)}
    (known : ∀ choice ∈ choices, isColor choice.2 = .ok true) (colors : OrderedMap Role String) :
    (readColors path strict colors
        (choices.map fun choice => (choice.1.name, .text choice.2))).outcome =
      .ok (choices.foldl (fun map choice => map.insert choice.1 choice.2) colors) := by
  induction choices generalizing colors with
  | nil => rfl
  | cons choice rest inductionHypothesis =>
    have checked : checkColor choice.1.name (.text choice.2) = .ok choice :=
      checkColor_eq_ok_iff.2
        ⟨Role.ofName?_name choice.1, rfl, known choice List.mem_cons_self⟩
    rw [List.map_cons, readColors, checked, List.foldl_cons]
    exact inductionHypothesis
      (fun other member => known other (List.mem_cons_of_mem choice member)) _

theorem keepExpressions_map (name : String) {texts : List String}
    (legible : ∀ text ∈ texts, ∃ expression, Expression.parse text = .ok expression) :
    (keepExpressions name (texts.map .text)).outcome = .ok texts := by
  induction texts with
  | nil => rfl
  | cons text rest inductionHypothesis =>
    obtain ⟨expression, parsed⟩ := legible text List.mem_cons_self
    have later := inductionHypothesis fun other member =>
      legible other (List.mem_cons_of_mem text member)
    rw [List.map_cons, keepExpressions]
    simp only [expressionText?, parsed, Logged.outcome_bind, later]
    rfl

/-- An alias is read back from its entry; no comment and an empty one are told apart. -/
theorem aliasOfEntry_entryOfAlias (name : String) {entry : Alias} (legible : entry.Legible) :
    (aliasOfEntry name (entryOfAlias entry)).outcome = .ok (some entry) := by
  obtain ⟨expressions, comment⟩ := entry
  have kept := keepExpressions_map name legible.2
  have present : expressions.isEmpty = false := by simpa using legible.1
  rw [aliasOfEntry, show entryItems? (entryOfAlias ⟨expressions, comment⟩) =
    some (expressions.map .text) from rfl]
  simp only [Logged.outcome_bind, kept, ok_bind, present]
  cases comment <;> rfl

theorem readAliases_map {entries : List (String × Alias)}
    (legible : ∀ entry ∈ entries, entry.2.Legible) (aliases : OrderedMap String Alias) :
    (readAliases aliases (entries.map fun entry => (entry.1, entryOfAlias entry.2))).outcome =
      .ok (entries.foldl (fun map entry => map.insert entry.1 entry.2) aliases) := by
  induction entries generalizing aliases with
  | nil => rfl
  | cons entry rest inductionHypothesis =>
    have fetched := aliasOfEntry_entryOfAlias entry.1 (legible entry List.mem_cons_self)
    rw [List.map_cons, readAliases, Logged.outcome_bind, fetched, ok_bind, List.foldl_cons]
    exact inductionHypothesis
      (fun other member => legible other (List.mem_cons_of_mem entry member)) _

end Sections

section Reloaded

/-- The store that is read from the file of a store: the aliases stand in the order of their
names. -/
def reloaded (store : AliasStore) : AliasStore where
  aliases := .ofList store.listing
  colors := store.colors

/-- The document of a valid store is read as the store. -/
theorem ofMembers_sections {store : AliasStore} (valid : store.Valid) (path : String)
    (strict : Bool) : (ofMembers path strict store.sections).outcome = .ok store.reloaded := by
  have known : ∀ choice ∈ store.colors.entries, isColor choice.2 = .ok true :=
    fun choice member => valid.colors _ _ ((store.colors.mem_entries_iff _ _).1 member)
  have legible : ∀ entry ∈ store.listing, entry.2.Legible := fun entry member =>
    valid.aliases _ _ ((store.aliases.mem_entries_iff _ _).1 (store.listing_perm.subset member))
  have colors := readColors_map path strict known .empty
  have aliases := readAliases_map legible .empty
  have kept : OrderedMap.ofList store.colors.entries = store.colors :=
    OrderedMap.ext (OrderedMap.entries_ofList store.colors.nodup_keys)
  rw [ofMembers, isLegacy_sections]
  simp only [Bool.false_eq_true, if_false, Logged.outcome_bind, Logged.outcome_ofExcept,
    mapError_id,
    sectionMembers_aliases, sectionMembers_colors, ok_bind]
  rw [colorMembers, colors, ok_bind, aliasMembers, aliases, ok_bind]
  exact congrArg (fun colors => Except.ok (AliasStore.mk (.ofList store.listing) colors false)) kept

theorem get?_reloaded (store : AliasStore) (name : String) :
    store.reloaded.get? name = store.get? name := by
  have entries : store.reloaded.aliases.entries = store.listing :=
    OrderedMap.entries_ofList store.nodup_names_listing
  refine Option.ext fun entry => ?_
  rw [get?, ← OrderedMap.mem_entries_iff, entries, store.listing_perm.mem_iff,
    OrderedMap.mem_entries_iff]
  rfl

/-- The listing is in the order of the names. -/
theorem listing_pairwise_le (store : AliasStore) :
    store.listing.Pairwise fun left right => left.1 ≤ right.1 := by
  refine (List.pairwise_mergeSort (fun _ _ _ below above => ?_) (fun left right => ?_)
    store.aliases.entries).imp fun below => of_decide_eq_true below
  · exact decide_eq_true (String.le_trans (of_decide_eq_true below) (of_decide_eq_true above))
  · simpa using String.le_total left.1 right.1

/-- The listing depends on what is found under each name and not on the order of the aliases. -/
theorem listing_congr {left right : AliasStore} (same : ∀ name, left.get? name = right.get? name) :
    left.listing = right.listing := by
  have perm := OrderedMap.perm_of_get?_eq same
  refine List.Perm.eq_of_pairwise ?_ left.listing_pairwise_le right.listing_pairwise_le
    ((left.listing_perm.trans perm).trans right.listing_perm.symm)
  rintro ⟨name, entry⟩ ⟨other, held⟩ listed found below above
  cases String.le_antisymm below above
  have here := (left.aliases.mem_entries_iff _ _).1 (left.listing_perm.subset listed)
  have there := (right.aliases.mem_entries_iff _ _).1 (right.listing_perm.subset found)
  have agree := same name
  rw [get?, get?, here, there] at agree
  cases agree
  rfl

/-- Stores with the same aliases by name and the same colours have the same file. -/
theorem fileBytes_congr {left right : AliasStore} (same : ∀ name, left.get? name = right.get? name)
    (colors : left.colors = right.colors) : left.fileBytes = right.fileBytes := by
  rw [fileBytes, fileBytes, document_eq, document_eq, sections, sections, aliasMembers,
    aliasMembers, colorMembers, colorMembers, listing_congr same, colors]

theorem fileBytes_reloaded (store : AliasStore) : store.reloaded.fileBytes = store.fileBytes :=
  fileBytes_congr store.get?_reloaded rfl

end Reloaded

section Files

open Files

variable {tree changed : Tree} {path : Path} {location : Location}

/-- Where no file stands the store is empty. -/
theorem load_of_absent (located : tree.locate path = .ok location)
    (absent : tree.get? location = none) (strict : Bool) :
    (load tree path strict).outcome = .ok empty := by
  rw [outcome_load, Tree.isPresent_of_locate located, absent]
  rfl

/-- A store is loaded from the bytes of its file. -/
theorem load_of_file {contents : ByteArray} (located : tree.locate path = .ok location)
    (found : tree.get? location = some (.file contents)) (strict : Bool) :
    (load tree path strict).outcome =
      membersOfBytes path.text contents >>= fun members =>
        (ofMembers path.text strict members).outcome := by
  rw [outcome_load, Tree.isPresent_of_locate located, found, Tree.read_of_locate located found]
  rfl

/-- A file holds a store when its bytes are those that saving the store writes. -/
structure Holds (tree : Tree) (path : Path) (store : AliasStore) : Prop where
  /-- The directory of the file is there. -/
  directory : tree.isDirectory path.parent = true
  /-- The file is there, with the bytes of the store. -/
  file : ∃ location, tree.locate path = .ok location ∧
    tree.get? location = some (.file store.fileBytes)

theorem Holds.read {store : AliasStore} (holds : Holds tree path store) :
    tree.read path = .ok store.fileBytes := by
  obtain ⟨location, located, found⟩ := holds.file
  exact Tree.read_of_locate located found

/-- Loading a file that holds a valid store gives the store, read strictly or not. -/
theorem Holds.load {store : AliasStore} (holds : Holds tree path store) (valid : store.Valid)
    (strict : Bool) : (load tree path strict).outcome = .ok store.reloaded := by
  obtain ⟨location, located, found⟩ := holds.file
  rw [load_of_file located found, membersOfBytes_fileBytes, ok_bind, ofMembers_sections valid]

/-- Where a store can be written to, saving succeeds, and the file then holds the store. -/
theorem save_of_writable (store : AliasStore) (writable : tree.Writable path) :
    (store.save tree path).1.outcome = .ok { store with legacy := false } ∧
      Holds (store.save tree path).2 path store := by
  obtain ⟨made, location, directories, located, free⟩ := writable
  have there := (Tree.isDirectory_of_makeDirectories directories).2
  have wrote := Tree.write_of_locate store.fileBytes located free
  have keeps := Tree.keeps_put (.file store.fileBytes) free
  have result : store.save tree path =
      (⟨[record .debug ("Saved " ++ toString store.aliases.entries.length ++ " aliases to " ++
          path.text)], .ok { store with legacy := false }⟩,
        made.put location (.file store.fileBytes)) := by
    rw [save, directories]
    simp only [wrote]
  rw [result]
  exact ⟨rfl, keeps.isDirectory there, location, keeps.locate located, Tree.get?_put_self _ free⟩

/-- Saving depends on the bytes to be written alone. -/
theorem save_tree_congr {left right : AliasStore} (same : left.fileBytes = right.fileBytes)
    (tree : Tree) (path : Path) : (left.save tree path).2 = (right.save tree path).2 := by
  rw [save, save, same]
  split
  · rfl
  · split <;> rfl

/-- Saving a store where its file already holds it changes nothing. -/
theorem Holds.save_again {store : AliasStore} (holds : Holds tree path store) :
    (store.save tree path).1.outcome = .ok { store with legacy := false } ∧
      (store.save tree path).2 = tree := by
  obtain ⟨there, location, located, found⟩ := holds
  have free : tree.get? location ≠ some .directory := by simp [found]
  have same := Tree.put_of_get?_eq (Tree.ne_root_of_get?_ne free) found
  have wrote := Tree.write_of_locate store.fileBytes located free
  rw [save, Tree.makeDirectories_of_isDirectory there]
  simp only [wrote, same, and_self]

end Files

/-- Loading undoes saving. A store that came about in any way is saved wherever a file can be
written; loading the file strictly gives a store with the same alias under every name, the same
colours in the same order, and no longer in the old format. Saving that store again leaves every
file as it is, and any store with the same aliases and colours, in whatever order they were bound,
is saved to the same bytes. -/
theorem load_undoes_save {store : AliasStore} {tree : Files.Tree} {path : Files.Path}
    (reachable : Reachable store) (writable : tree.Writable path) :
    ∃ saved loaded again,
      (store.save tree path).1.outcome = .ok saved ∧
      (store.save tree path).2.read path = .ok store.fileBytes ∧
      (load (store.save tree path).2 path true).outcome = .ok loaded ∧
      (∀ name, loaded.get? name = store.get? name) ∧
      loaded.colors = store.colors ∧
      loaded.legacy = false ∧
      (loaded.save (store.save tree path).2 path).1.outcome = .ok again ∧
      (loaded.save (store.save tree path).2 path).2 = (store.save tree path).2 ∧
      ∀ other : AliasStore, (∀ name, other.get? name = store.get? name) →
        other.colors = store.colors →
        other.fileBytes = store.fileBytes ∧
          (other.save tree path).2 = (store.save tree path).2 := by
  obtain ⟨saved, holds⟩ := save_of_writable store writable
  have loaded := holds.load reachable.valid true
  have kept : Holds (store.save tree path).2 path store.reloaded :=
    ⟨holds.directory, by simpa only [fileBytes_reloaded] using holds.file⟩
  obtain ⟨again, unchanged⟩ := kept.save_again
  refine ⟨_, _, _, saved, holds.read, loaded, store.get?_reloaded, rfl, rfl, again, unchanged, ?_⟩
  intro other same colors
  have bytes := fileBytes_congr same colors
  exact ⟨bytes, save_tree_congr bytes tree path⟩

/-- The same for an alias with an empty comment whose name is that of a member of entries, and a
colour, saved in a directory that has to be made. -/
theorem load_undoes_save_of_a_misleading_name :
    ∃ store : AliasStore, store.get? "expressions" = some ⟨["2d6", "D20"], some ""⟩ ∧
      store.colors.entries = [(.high, "red")] ∧
      ∃ loaded,
        (load (store.save ⟨.empty, []⟩ (.ofString "/home/.roll")).2 (.ofString "/home/.roll")
          true).outcome = .ok loaded ∧
        loaded.get? "expressions" = some ⟨["2d6", "D20"], some ""⟩ ∧
        loaded.colors.entries = [(.high, "red")] := by
  have added : (empty.add " expressions" ["2d6", "D20 "] (some "")).outcome =
      .ok ({ empty with aliases := .ofList [("expressions", ⟨["2d6", "D20"], some ""⟩)] },
        ⟨["2d6", "D20"], some ""⟩) := by
    have named : Text.trim " expressions" = "expressions" := by decide +kernel
    have texts : ["2d6", "D20 "].map Text.trim = ["2d6", "D20"] := by decide +kernel
    refine add_eq_ok_iff.2 ⟨by rw [named]; decide, by rw [texts], ⟨by simp, ?_⟩, by rw [named]; rfl⟩
    simp only [List.forall_mem_cons, List.not_mem_nil, false_imp_iff, implies_true, and_true]
    exact ⟨⟨⟨2, 6, false, 0, 1⟩, by decide +kernel⟩, ⟨⟨1, 20, false, 0, 1⟩, by decide +kernel⟩⟩
  have red : checkColor "high" (.text "red") = .ok (.high, "red") :=
    checkColor_eq_ok_iff.2 ⟨rfl, rfl, by decide +kernel⟩
  have reachable : Reachable ⟨.ofList [("expressions", ⟨["2d6", "D20"], some ""⟩)],
      .ofList [(.high, "red")], false⟩ :=
    .setColor (.add .empty added) (setColor_eq_ok_iff.2 ⟨.high, "red", red, rfl⟩)
  have writable : Files.Tree.Writable ⟨.empty, []⟩ (.ofString "/home/.roll") :=
    ⟨_, ["home", ".roll"], rfl, rfl, by decide⟩
  obtain ⟨-, loaded, -, -, -, read, same, colors, -⟩ :=
    load_undoes_save reachable writable
  exact ⟨_, rfl, rfl, loaded, read, same "expressions", congrArg OrderedMap.entries colors⟩

end DiceTray.AliasStore
