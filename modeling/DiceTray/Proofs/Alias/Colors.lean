import DiceTray.Proofs.Alias.Defects
import DiceTray.Proofs.Json.Members

/-!
# Colours that are passed over

A file in the current format is loaded with the colours that are colours, and all others are passed
over; read strictly, the first of the others is an error. Both ways of reading take the same aliases
from the file and the same colours, unless a component of a colour is no number: that stops either.
-/

namespace DiceTray

theorem Role.ofName?_eq_some_iff {name : String} {role : Role} :
    Role.ofName? name = some role ↔ name = role.name := by
  constructor
  · intro known
    rw [Role.ofName?] at known
    split at known
    · next high =>
      cases known
      exact high
    · split at known
      · next low =>
        cases known
        exact low
      · cases known
  · rintro rfl
    exact role.ofName?_name

/-- What is kept of items, and has the key of its item, has the keys in the order of the items. -/
theorem filterMap_sublist_map {α β : Type} {keep : α → Option β} {key : α → β}
    (keeps : ∀ item value, keep item = some value → value = key item) (items : List α) :
    (items.filterMap keep).Sublist (items.map key) := by
  induction items with
  | nil => exact List.Sublist.slnil
  | cons item rest inductionHypothesis =>
    cases kept : keep item with
    | none =>
      rw [List.filterMap_cons_none kept, List.map_cons]
      exact inductionHypothesis.cons _
    | some value =>
      rw [List.filterMap_cons_some kept, List.map_cons, ← keeps item value kept]
      exact inductionHypothesis.cons_cons _

namespace AliasStore

open Files Text

/-- The colour that a choice gives: its role exists, and its value is a text that gives a colour. -/
def usableColor? (choice : String × Json.Value) : Option (Role × String) :=
  match Role.ofName? choice.1, choice.2 with
  | some role, .text color => if isColor color = .ok true then some (role, color) else none
  | _, _ => none

/-- A choice for a role by a text in the form of components, one of which is no number that can be
read. -/
def Garbled (choice : String × Json.Value) : Prop :=
  ∃ role color, choice = (Role.name role, .text color) ∧
    HasFaultyComponent (trimChars (lowercaseChars color.toList))

/-- Every number in the expressions of entries has few enough digits to be read. -/
def NumbersFit (entries : List (String × Json.Value)) : Prop :=
  ∀ entry ∈ entries, ∀ items, entryItems? entry.2 = some items → ∀ item ∈ items,
    ∀ text, expressionText? item = some text →
      Expression.overlong? (Expression.normalizeChars text.toList) = none

section Choices

theorem usableColor?_eq_some_iff {choice : String × Json.Value} {role : Role} {color : String} :
    usableColor? choice = some (role, color) ↔
      choice = (role.name, .text color) ∧ isColor color = .ok true := by
  obtain ⟨name, value⟩ := choice
  rw [usableColor?]
  constructor
  · intro usable
    split at usable
    · next found text known given =>
      dsimp only at known given
      split at usable
      · next gives =>
        cases usable
        rw [Role.ofName?_eq_some_iff.1 known, given]
        exact ⟨rfl, gives⟩
      · cases usable
    · cases usable
  · rintro ⟨same, gives⟩
    cases same
    dsimp only
    rw [role.ofName?_name]
    dsimp only
    rw [if_pos gives]

/-- The colour that a choice gives is the one that passes its check. -/
theorem usableColor?_eq_toOption (choice : String × Json.Value) :
    usableColor? choice = (checkColor choice.1 choice.2).toOption := by
  cases checked : checkColor choice.1 choice.2 with
  | ok chosen =>
    obtain ⟨role, color⟩ := chosen
    obtain ⟨known, given, gives⟩ := checkColor_eq_ok_iff.1 checked
    refine usableColor?_eq_some_iff.2 ⟨Prod.ext (Role.ofName?_eq_some_iff.1 known) ?_, gives⟩
    cases value : choice.2 with
    | text text =>
      rw [value] at given
      exact congrArg _ (Option.some.inj given)
    | _ =>
      rw [value] at given
      cases given
  | error fault =>
    refine Option.eq_none_iff_forall_ne_some.2 fun ⟨role, color⟩ usable => ?_
    obtain ⟨rfl, gives⟩ := usableColor?_eq_some_iff.1 usable
    cases checked.symm.trans (checkColor_eq_ok_iff.2 ⟨role.ofName?_name, rfl, gives⟩)

theorem garbled_iff {choice : String × Json.Value} :
    Garbled choice ↔ ∃ error, checkColor choice.1 choice.2 = .error (.number error) := by
  constructor
  · rintro ⟨role, color, rfl, faulty⟩
    obtain ⟨error, failed⟩ := isColor_eq_error_iff.2 faulty
    exact ⟨error, checkColor_eq_number_iff.2 ⟨role, color, role.ofName?_name, rfl, failed⟩⟩
  · rintro ⟨error, stopped⟩
    obtain ⟨role, color, known, given, failed⟩ := checkColor_eq_number_iff.1 stopped
    exact ⟨role, color, Prod.ext (Role.ofName?_eq_some_iff.1 known) given,
      isColor_eq_error_iff.1 ⟨error, failed⟩⟩

/-- Read leniently, only garbled choices are faults. -/
theorem colorFault?_lenient_eq_none_iff {choice : String × Json.Value} :
    colorFault? false choice = none ↔ ¬ Garbled choice := by
  rw [garbled_iff, colorFault?]
  rcases checkColor_cases choice.1 choice.2 with ⟨_, checked⟩ | ⟨_, checked⟩ | ⟨_, checked⟩ <;>
    simp [checked]

/-- Read strictly, all choices are faults that give no colour. -/
theorem colorFault?_strict_eq_none_iff {choice : String × Json.Value} :
    colorFault? true choice = none ↔ (usableColor? choice).isSome = true := by
  rw [usableColor?_eq_toOption, colorFault?]
  rcases checkColor_cases choice.1 choice.2 with ⟨_, checked⟩ | ⟨_, checked⟩ | ⟨_, checked⟩ <;>
    simp [checked, Except.toOption]

/-- Where all choices give colours, or none has to, only garbled choices are faults. -/
theorem findSome?_colorFault?_eq_none_iff {strict : Bool} {choices : List (String × Json.Value)}
    (colors : strict = true → ∀ choice ∈ choices, (usableColor? choice).isSome) :
    choices.findSome? (colorFault? strict) = none ↔ ∀ choice ∈ choices, ¬ Garbled choice := by
  rw [List.findSome?_eq_none_iff]
  refine forall₂_congr fun choice chosen => ?_
  cases strict with
  | false => exact colorFault?_lenient_eq_none_iff
  | true =>
    have usable := colors rfl choice chosen
    refine iff_of_true (colorFault?_strict_eq_none_iff.2 usable) fun garbled => ?_
    obtain ⟨error, stopped⟩ := garbled_iff.1 garbled
    rw [usableColor?_eq_toOption, stopped] at usable
    cases usable

/-- The colours that are kept of choices for different names are those that the choices give, in
their order. -/
theorem entries_keptColors {choices : List (String × Json.Value)}
    (distinct : (choices.map Prod.fst).Nodup) :
    (OrderedMap.ofList (keptColors choices)).entries = choices.filterMap usableColor? := by
  have same : keptColors choices = choices.filterMap usableColor? := by
    rw [keptColors, funext usableColor?_eq_toOption]
  rw [same]
  apply OrderedMap.entries_ofList
  have named : ((choices.filterMap usableColor?).map fun color => color.1.name).Nodup := by
    rw [List.map_filterMap]
    refine distinct.sublist (filterMap_sublist_map (fun choice name kept => ?_) choices)
    obtain ⟨⟨role, color⟩, usable, rfl⟩ := Option.map_eq_some_iff.1 kept
    rw [(usableColor?_eq_some_iff.1 usable).1]
  refine List.Nodup.of_map Role.name ?_
  rw [List.map_map]
  exact named

end Choices

section Sections

variable {cs : List Char} {members : List (String × Json.Value)}

/-- What is read of a section was listed in the text; nothing is listed for a section that is
missing. -/
theorem exists_listed_section (resolved : Json.Resolved cs (.object members)) (name : String) :
    ∃ written, Json.Listed cs written ∧
      sectionOf members name = (OrderedMap.ofList written).entries := by
  rw [sectionOf]
  split
  · next entries found => exact (resolved.member found).exists_listed
  · exact ⟨[], .none, rfl⟩

theorem exists_listed_entries (resolved : Json.Resolved cs (.object members)) :
    ∃ written, Json.Listed cs written ∧
      entriesOf members = (OrderedMap.ofList written).entries := by
  rw [entriesOf]
  split
  · exact resolved.exists_listed
  · exact exists_listed_section resolved aliasSection

theorem nodup_choicesOf (resolved : Json.Resolved cs (.object members)) :
    ((choicesOf members).map Prod.fst).Nodup := by
  rw [choicesOf]
  split
  · exact List.nodup_nil
  · obtain ⟨written, -, same⟩ := exists_listed_section resolved colorSection
    rw [same]
    exact (OrderedMap.ofList written).nodup_keys

theorem exists_resolved {bytes : ByteArray} {value : Json.Value}
    (document : Documents bytes value) :
    ∃ text, decodeUtf8 bytes = .ok text ∧ Json.Resolved (unified text).toList value := by
  obtain ⟨text, decoded, read⟩ := document
  exact ⟨text, decoded, Json.resolved_of_read read⟩

theorem numbersFit_iff {entries : List (String × Json.Value)} :
    NumbersFit entries ↔ entries.findSome? entryFault? = none := by
  rw [List.findSome?_eq_none_iff]
  constructor
  · intro fit entry among
    cases found : entryFault? entry with
    | none => rfl
    | some fault =>
      obtain ⟨items, item, text, digits, listed, member, given, long, -⟩ :=
        entryFault?_eq_some found
      cases (fit entry among items listed item member text given).symm.trans long
  · intro spared entry among items listed item member text given
    cases long : Expression.overlong? (Expression.normalizeChars text.toList) with
    | none => rfl
    | some digits =>
      have first := spared entry among
      rw [entryFault?, listed, Option.bind_some] at first
      have stopped := List.findSome?_eq_none_iff.1 first item member
      cases (itemFault?_eq_some_iff.2 ⟨text, digits, given, long, rfl⟩).symm.trans stopped

/-- Where sections are objects and expressions can be read, only colours can be faults. -/
theorem membersFault?_of_sections {path : String} {strict : Bool}
    (sections : wrongSection? members = none) (fit : NumbersFit (entriesOf members)) :
    membersFault? path strict members = (choicesOf members).findSome? (colorFault? strict) := by
  rw [membersFault?, sections, numbersFit_iff.1 fit, Option.map_none, Option.none_or,
    Option.or_none]

end Sections

section WithoutColors

variable {members : List (String × Json.Value)}

/-- A document without its section of colours. -/
def withoutColors (members : List (String × Json.Value)) : List (String × Json.Value) :=
  members.filter fun member => member.1 ≠ colorSection

theorem isLegacy_withoutColors (current : isLegacy members = false) :
    isLegacy (withoutColors members) = false := by
  rw [isLegacy, List.any_eq_false] at current ⊢
  exact fun member present => current member (List.mem_of_mem_filter present)

theorem lookup_aliasSection_withoutColors (members : List (String × Json.Value)) :
    (withoutColors members).lookup aliasSection = members.lookup aliasSection := by
  rw [withoutColors, lookup_filter_ne, if_neg (by decide)]

theorem lookup_colorSection_withoutColors (members : List (String × Json.Value)) :
    (withoutColors members).lookup colorSection = none := by
  rw [withoutColors, lookup_filter_ne, if_pos rfl]

/-- A document without its colours has the same entries, no choices, and no section that is no
object. -/
theorem membersFault?_withoutColors {path : String} {strict : Bool}
    (current : isLegacy members = false) (sections : wrongSection? members = none)
    (fit : NumbersFit (entriesOf members)) :
    membersFault? path strict (withoutColors members) = none ∧
      (usable (withoutColors members)).aliases = (usable members).aliases := by
  have current' := isLegacy_withoutColors current
  have entries : entriesOf (withoutColors members) = entriesOf members := by
    rw [entriesOf, entriesOf, current', current, if_neg Bool.false_ne_true,
      if_neg Bool.false_ne_true, sectionOf, sectionOf, lookup_aliasSection_withoutColors]
  have choices : choicesOf (withoutColors members) = [] := by
    rw [choicesOf, current', sectionOf, lookup_colorSection_withoutColors]
    rfl
  have sections' : wrongSection? (withoutColors members) = none := by
    rw [wrongSection?, current, if_neg Bool.false_ne_true, List.find?_eq_none] at sections
    rw [wrongSection?, current', if_neg Bool.false_ne_true, List.find?_eq_none]
    simp only [List.forall_mem_cons] at sections ⊢
    refine ⟨?_, ?_, List.forall_mem_nil _⟩
    · rw [isWrongSection, lookup_aliasSection_withoutColors]
      exact sections.1
    · rw [isWrongSection, lookup_colorSection_withoutColors]
      exact Bool.false_ne_true
  refine ⟨?_, by rw [usable, usable, entries]⟩
  rw [membersFault?_of_sections sections' (entries ▸ fit), choices, List.findSome?_nil]

end WithoutColors

section Loading

variable {tree : Tree} {path : Path} {location : Location} {bytes : ByteArray}
  {members : List (String × Json.Value)}

theorem load_of_sections (strict : Bool) (located : tree.locate path = .ok location)
    (found : tree.get? location = some (.file bytes))
    (document : Documents bytes (.object members)) (sections : wrongSection? members = none)
    (fit : NumbersFit (entriesOf members)) :
    (load tree path strict).outcome =
      unlessFault ((choicesOf members).findSome? (colorFault? strict)) (usable members) := by
  rw [load_of_documents located found document, membersFault?_of_sections sections fit]

theorem exists_load_iff {strict : Bool} (located : tree.locate path = .ok location)
    (found : tree.get? location = some (.file bytes))
    (document : Documents bytes (.object members)) (sections : wrongSection? members = none)
    (fit : NumbersFit (entriesOf members))
    (colors : strict = true → ∀ choice ∈ choicesOf members, (usableColor? choice).isSome) :
    (∃ store, (load tree path strict).outcome = .ok store) ↔
      ∀ choice ∈ choicesOf members, ¬ Garbled choice := by
  rw [load_of_sections strict located found document sections fit,
    ← findSome?_colorFault?_eq_none_iff colors]
  constructor
  · rintro ⟨store, loaded⟩
    exact (unlessFault_eq_ok_iff.1 loaded).1
  · exact fun spared => ⟨usable members, unlessFault_eq_ok_iff.2 ⟨spared, rfl⟩⟩

/-- A file in the current format, whose sections are objects and whose expressions have numbers that
can be read, is loaded leniently exactly when none of its colours is garbled. The store then has the
colours that the choices of the file give, in the order of the file, and the aliases that the
document has without its colours. Read strictly, the file gives the same store if every choice gives
a colour, and else an alias error. -/
theorem lenient_colors_agree_with_strict (located : tree.locate path = .ok location)
    (found : tree.get? location = some (.file bytes))
    (document : Documents bytes (.object members)) (current : isLegacy members = false)
    (sections : wrongSection? members = none) (fit : NumbersFit (entriesOf members)) :
    ((∃ store, (load tree path false).outcome = .ok store) ↔
      ∀ choice ∈ choicesOf members, ¬ Garbled choice) ∧
    ∀ store, (load tree path false).outcome = .ok store →
      store.legacy = false ∧
      store.colors.entries = (choicesOf members).filterMap usableColor? ∧
      (∀ strict, ∃ bare,
        (ofMembers path.text strict (withoutColors members)).outcome = .ok bare ∧
          bare.aliases = store.aliases) ∧
      ((∀ choice ∈ choicesOf members, (usableColor? choice).isSome) ∧
          (load tree path true).outcome = .ok store ∨
        (∃ choice ∈ choicesOf members, usableColor? choice = none) ∧
          ∃ error, (load tree path true).outcome = .error (.aliases error)) := by
  have loads : (∃ store, (load tree path false).outcome = .ok store) ↔
      ∀ choice ∈ choicesOf members, ¬ Garbled choice :=
    exists_load_iff located found document sections fit nofun
  refine ⟨loads, fun store loaded => ?_⟩
  have clear := loads.1 ⟨store, loaded⟩
  rw [load_of_sections false located found document sections fit] at loaded
  obtain ⟨-, rfl⟩ := unlessFault_eq_ok_iff.1 loaded
  obtain ⟨text, -, resolved⟩ := exists_resolved document
  refine ⟨current, entries_keptColors (nodup_choicesOf resolved), fun strict => ?_, ?_⟩
  · obtain ⟨sound, same⟩ := membersFault?_withoutColors current sections fit
    exact ⟨usable (withoutColors members), by rw [outcome_ofMembers, sound, unlessFault_none], same⟩
  · rw [load_of_sections true located found document sections fit]
    cases first : (choicesOf members).findSome? (colorFault? true) with
    | none =>
      refine .inl ⟨fun choice chosen => ?_, rfl⟩
      exact colorFault?_strict_eq_none_iff.1 (List.findSome?_eq_none_iff.1 first choice chosen)
    | some fault =>
      obtain ⟨choice, chosen, refused⟩ := List.exists_of_findSome?_eq_some first
      refine .inr ⟨⟨choice, chosen, ?_⟩, ?_⟩
      · rw [← Option.not_isSome_iff_eq_none, ← colorFault?_strict_eq_none_iff, refused]
        exact nofun
      · rcases colorFault?_cases refused with ⟨-, error, rfl, -⟩ | ⟨error, -, checked⟩
        · exact ⟨error, rfl⟩
        · exact absurd (garbled_iff.2 ⟨error, checked⟩) (clear choice chosen)

end Loading

section Cases

/-- What is decided about a document that the bytes of a file describe. -/
theorem exists_document {bytes : ByteArray} {holds : List (String × Json.Value) → Prop}
    [DecidablePred holds]
    (read : ((membersOfBytes "f" bytes).toOption.any fun members =>
      decide (holds members)) = true) :
    ∃ members, Documents bytes (.object members) ∧ holds members := by
  cases found : membersOfBytes "f" bytes with
  | error fault =>
    rw [found] at read
    cases read
  | ok members =>
    rw [found] at read
    exact ⟨members, membersOfBytes_eq_ok_iff.1 found, of_decide_eq_true read⟩

theorem not_exists_ok {outcome : Except Fault AliasStore}
    (stopped : outcome.toOption.isSome = false) : ¬ ∃ store, outcome = .ok store := by
  rintro ⟨store, rfl⟩
  cases stopped

theorem locate_treeOf (bytes : ByteArray) :
    (treeOf bytes).locate (.ofString "f") = .ok ["w", "f"] := by
  rfl

/-- A document with a colour that is none, one that is one, and one for a role that does not exist.
-/
def motley : String :=
  "\x7b\"colors\": \x7b\"high\": \"nope\", \"low\": \"blue\", \"shade\": 3\x7d, " ++
    "\"aliases\": \x7b\"elf\": \x7b\"expressions\": [\"2d4\"]\x7d\x7d\x7d"

/-- Leniently, the one colour of that document is loaded, and strictly, an alias error is reported.
-/
theorem lenient_colors_agree_with_strict_of_motley :
    ∃ members, Documents motley.toUTF8 (.object members) ∧ isLegacy members = false ∧
      wrongSection? members = none ∧ NumbersFit (entriesOf members) ∧
      (∃ store, (load (treeOf motley.toUTF8) (.ofString "f") false).outcome = .ok store ∧
        store.colors.entries = [(.low, "blue")]) ∧
      ∃ error, (load (treeOf motley.toUTF8) (.ofString "f") true).outcome =
        .error (.aliases error) := by
  obtain ⟨members, document, current, sections, spared, clear, colors, mixed⟩ :
      ∃ members, Documents motley.toUTF8 (.object members) ∧ isLegacy members = false ∧
        wrongSection? members = none ∧ (entriesOf members).findSome? entryFault? = none ∧
        (choicesOf members).findSome? (colorFault? false) = none ∧
        (choicesOf members).filterMap usableColor? = [(.low, "blue")] ∧
        ¬ ∀ choice ∈ choicesOf members, (usableColor? choice).isSome := by
    apply exists_document
    decide +kernel
  have fit := numbersFit_iff.2 spared
  obtain ⟨loads, agrees⟩ := lenient_colors_agree_with_strict (locate_treeOf motley.toUTF8) rfl
    document current sections fit
  obtain ⟨store, loaded⟩ := loads.2 fun choice chosen =>
    colorFault?_lenient_eq_none_iff.1 (List.findSome?_eq_none_iff.1 clear choice chosen)
  obtain ⟨-, kept, -, strictly⟩ := agrees store loaded
  refine ⟨members, document, current, sections, fit, ⟨store, loaded, kept.trans colors⟩, ?_⟩
  rcases strictly with ⟨all, -⟩ | ⟨-, refused⟩
  · exact absurd all mixed
  · exact refused

/-- A file with a colour of three components, none of which has a digit. -/
def hollow : ByteArray := "\x7b\"colors\": \x7b\"low\": \"rgb(,,)\"\x7d\x7d".toUTF8

/-- The sections of that file are in order and it has no expressions, but not even leniently is it
loaded. -/
theorem hollow_components_block_loading :
    (∃ members, Documents hollow (.object members) ∧ isLegacy members = false ∧
      wrongSection? members = none ∧ NumbersFit (entriesOf members)) ∧
    ¬ ∃ store, (load (treeOf hollow) (.ofString "f") false).outcome = .ok store := by
  obtain ⟨members, document, current, sections, spared⟩ :
      ∃ members, Documents hollow (.object members) ∧ isLegacy members = false ∧
        wrongSection? members = none ∧ (entriesOf members).findSome? entryFault? = none := by
    apply exists_document
    decide +kernel
  have stopped : (load (treeOf hollow) (.ofString "f") false).outcome.toOption.isSome = false := by
    decide +kernel
  exact ⟨⟨members, document, current, sections, numbersFit_iff.2 spared⟩, not_exists_ok stopped⟩

end Cases

end AliasStore

end DiceTray
