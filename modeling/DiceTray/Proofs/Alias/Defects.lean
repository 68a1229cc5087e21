import DiceTray.Proofs.Alias.Loading

/-!
# Damaged files

Whatever the bytes of an alias file are, loading it gives a store or reports an alias error, unless
a number that cannot be read stops it. There are three places for such a number: an integer of the
document, a component of a colour, and an expression of an entry. What is no alias or no colour is
left out, and all else is kept.
-/

namespace DiceTray.AliasStore

open Files Text

/-- A text with the three ways to end a line made one. -/
def unified (text : String) : String := String.ofList (unifyLines text.toList)

/-- The document that the bytes of a file describe. -/
def Documents (bytes : ByteArray) (value : Json.Value) : Prop :=
  ∃ text, decodeUtf8 bytes = .ok text ∧ Json.read (unified text) = .ok value

/-- What is wrong with the bytes of a file as a whole. -/
inductive Defective (bytes : ByteArray) : FileDefect → Prop
  | encoding {error : EncodingError} (undecoded : decodeUtf8 bytes = .error error) :
      Defective bytes (.encoding error)
  | document {text : String} {reason : Json.Reason} {line column position : Nat}
      (decoded : decodeUtf8 bytes = .ok text)
      (refused : Json.read (unified text) = .error (.malformed reason line column position)) :
      Defective bytes (.document reason line column position)
  | notObject {value : Json.Value} (document : Documents bytes value)
      (other : ∀ members, value ≠ .object members) : Defective bytes .notObject
  | sectionNotObject {members : List (String × Json.Value)} {name : String}
      (document : Documents bytes (.object members)) (wrong : wrongSection? members = some name) :
      Defective bytes (.sectionNotObject name)

/-- Where a number stands in a file that stops its loading. -/
inductive Stops (bytes : ByteArray) : NumberError → Prop
  /-- An integer of the document has too many digits. -/
  | literal {text : String} {length : Nat} (decoded : decodeUtf8 bytes = .ok text)
      (stopped : Json.read (unified text) = .error (.number (.tooManyDigits length)))
      (holds : Json.HoldsLiteral (unified text).toList length) :
      Stops bytes (.tooManyDigits length)
  /-- A component of a chosen colour is no number that can be read. -/
  | component {members : List (String × Json.Value)} {name : String} {role : Role}
      {color : String} {error : NumberError} (document : Documents bytes (.object members))
      (chosen : (name, .text color) ∈ choicesOf members) (known : Role.ofName? name = some role)
      (stopped : isColor color = .error error)
      (faulty : HasFaultyComponent (trimChars (lowercaseChars color.toList))) : Stops bytes error
  /-- A number of an expression has too many digits. -/
  | expression {members : List (String × Json.Value)} {name text : String} {entry item : Json.Value}
      {items : List Json.Value} {digits : Nat} (document : Documents bytes (.object members))
      (among : (name, entry) ∈ entriesOf members) (listed : entryItems? entry = some items)
      (member : item ∈ items) (given : expressionText? item = some text)
      (long : Expression.overlong? (Expression.normalizeChars text.toList) = some digits) :
      Stops bytes (.tooManyDigits digits)

section Faults

theorem itemFault?_eq_some_iff {item : Json.Value} {fault : Fault} : itemFault? item = some fault ↔
    ∃ text digits, expressionText? item = some text ∧
      Expression.overlong? (Expression.normalizeChars text.toList) = some digits ∧
      fault = .number (.tooManyDigits digits) := by
  rw [itemFault?, Option.bind_eq_some_iff]
  constructor
  · rintro ⟨text, given, stopped⟩
    split at stopped
    · next error failed =>
      cases stopped
      obtain ⟨digits, long, rfl⟩ := Expression.parse_eq_number_iff.1 failed
      exact ⟨text, digits, given, long, rfl⟩
    · cases stopped
  · rintro ⟨text, digits, given, long, rfl⟩
    refine ⟨text, given, ?_⟩
    rw [Expression.parse_eq_number_iff.2 ⟨digits, long, rfl⟩]

theorem entryFault?_eq_some {entry : String × Json.Value} {fault : Fault}
    (found : entryFault? entry = some fault) :
    ∃ items item text digits, entryItems? entry.2 = some items ∧ item ∈ items ∧
      expressionText? item = some text ∧
      Expression.overlong? (Expression.normalizeChars text.toList) = some digits ∧
      fault = .number (.tooManyDigits digits) := by
  obtain ⟨items, listed, first⟩ := Option.bind_eq_some_iff.1 found
  obtain ⟨item, member, stopped⟩ := List.exists_of_findSome?_eq_some first
  obtain ⟨text, digits, given, long, same⟩ := itemFault?_eq_some_iff.1 stopped
  exact ⟨items, item, text, digits, listed, member, given, long, same⟩

/-- A number stops the check of a colour that is given by a text for a role that exists. -/
theorem checkColor_eq_number_iff {name : String} {value : Json.Value} {error : NumberError} :
    checkColor name value = .error (.number error) ↔
      ∃ role color, Role.ofName? name = some role ∧ value = .text color ∧
        isColor color = .error error := by
  constructor
  · intro stopped
    rw [checkColor] at stopped
    split at stopped
    · cases stopped
    · next role known =>
      cases value with
      | text color =>
        dsimp only [Json.Value.text?] at stopped
        split at stopped
        · next cause failed =>
          cases stopped
          exact ⟨role, color, known, rfl, failed⟩
        · cases stopped
        · cases stopped
      | _ => cases stopped
  · rintro ⟨role, color, known, rfl, failed⟩
    rw [checkColor, known]
    dsimp only [Json.Value.text?]
    rw [failed]

/-- All that can come of the check of a colour. -/
theorem checkColor_cases (name : String) (value : Json.Value) :
    (∃ choice, checkColor name value = .ok choice) ∨
      (∃ error, checkColor name value = .error (.aliases error)) ∨
        ∃ error, checkColor name value = .error (.number error) := by
  rw [checkColor]
  repeat' split
  · exact .inr (.inl ⟨_, rfl⟩)
  · exact .inr (.inl ⟨_, rfl⟩)
  · exact .inr (.inr ⟨_, rfl⟩)
  · exact .inr (.inl ⟨_, rfl⟩)
  · exact .inl ⟨_, rfl⟩

/-- A fault of a colour is that of its check, which counts only for numbers or when colours are read
strictly. -/
theorem colorFault?_cases {strict : Bool} {choice : String × Json.Value} {fault : Fault}
    (found : colorFault? strict choice = some fault) :
    (strict = true ∧ ∃ error, fault = .aliases error ∧
      checkColor choice.1 choice.2 = .error (.aliases error)) ∨
    ∃ error, fault = .number error ∧ checkColor choice.1 choice.2 = .error (.number error) := by
  rw [colorFault?] at found
  rcases checkColor_cases choice.1 choice.2 with
    ⟨_, checked⟩ | ⟨error, checked⟩ | ⟨error, checked⟩ <;>
    rw [checked] at found
  · cases found
  · dsimp only at found
    split at found
    · next strictly =>
      cases found
      exact .inl ⟨strictly, error, rfl, checked⟩
    · cases found
  · cases found
    exact .inr ⟨error, rfl, checked⟩

end Faults

section Loading

variable {tree : Tree} {path : Path} {location : Location} {bytes : ByteArray} {strict : Bool}
  {members : List (String × Json.Value)}

/-- The first fault of a document is an alias error or a number in one of its places. -/
theorem membersFault?_cases {text : String} {fault : Fault}
    (document : Documents bytes (.object members))
    (found : membersFault? text strict members = some fault) :
    (∃ error, fault = .aliases error) ∨ ∃ error, fault = .number error ∧ Stops bytes error := by
  rw [membersFault?, Option.or_eq_some_iff, Option.or_eq_some_iff] at found
  rcases found with wrong | ⟨-, color | ⟨-, entry⟩⟩
  · obtain ⟨name, -, rfl⟩ := Option.map_eq_some_iff.1 wrong
    exact .inl ⟨_, rfl⟩
  · obtain ⟨⟨name, value⟩, chosen, stopped⟩ := List.exists_of_findSome?_eq_some color
    rcases colorFault?_cases stopped with ⟨-, error, rfl, -⟩ | ⟨error, rfl, checked⟩
    · exact .inl ⟨error, rfl⟩
    · obtain ⟨role, color, known, rfl, failed⟩ := checkColor_eq_number_iff.1 checked
      exact .inr ⟨error, rfl, .component document chosen known failed
        (isColor_eq_error_iff.1 ⟨error, failed⟩)⟩
  · obtain ⟨⟨name, entry⟩, among, stopped⟩ := List.exists_of_findSome?_eq_some entry
    obtain ⟨items, item, text, digits, listed, member, given, long, rfl⟩ :=
      entryFault?_eq_some stopped
    exact .inr ⟨_, rfl, .expression document among listed member given long⟩

/-- The bytes of a file describe one document at most. -/
theorem Documents.unique {first second : Json.Value} (one : Documents bytes first)
    (other : Documents bytes second) : first = second := by
  obtain ⟨text, decoded, read⟩ := one
  obtain ⟨text', decoded', read'⟩ := other
  cases decoded.symm.trans decoded'
  exact Except.ok.inj (read.symm.trans read')

/-- A document has no fault when its sections are objects, no number stops it, and the colours that
are read strictly are colours. -/
theorem membersFault?_eq_none {text : String} (document : Documents bytes (.object members))
    (sections : wrongSection? members = none) (free : ∀ error, ¬ Stops bytes error)
    (colors : strict = true → ∀ choice ∈ choicesOf members,
      ∃ color, checkColor choice.1 choice.2 = .ok color) :
    membersFault? text strict members = none := by
  cases first : membersFault? text strict members with
  | none => rfl
  | some fault =>
    rcases membersFault?_cases document first with ⟨error, rfl⟩ | ⟨error, rfl, stops⟩
    · rw [membersFault?, sections, Option.map_none, Option.none_or, Option.or_eq_some_iff] at first
      rcases first with color | ⟨-, entry⟩
      · obtain ⟨choice, chosen, refused⟩ := List.exists_of_findSome?_eq_some color
        rcases colorFault?_cases refused with ⟨strictly, _, -, checked⟩ | ⟨_, same, -⟩
        · obtain ⟨color, passed⟩ := colors strictly choice chosen
          cases checked.symm.trans passed
        · cases same
      · obtain ⟨entry, among, stopped⟩ := List.exists_of_findSome?_eq_some entry
        obtain ⟨_, _, _, _, -, -, -, -, same⟩ := entryFault?_eq_some stopped
        cases same
    · exact absurd stops (free error)

/-- A number in one of its places is a fault of the document. -/
theorem membersFault?_ne_none {text : String} {error : NumberError}
    (document : Documents bytes (.object members)) (stops : Stops bytes error) :
    membersFault? text strict members ≠ none := by
  intro sound
  rw [membersFault?, Option.or_eq_none_iff, Option.or_eq_none_iff] at sound
  obtain ⟨-, colors, entries⟩ := sound
  cases stops with
  | literal decoded stopped =>
    obtain ⟨text, decoded', read⟩ := document
    cases decoded.symm.trans decoded'
    cases stopped.symm.trans read
  | component document' chosen known stopped faulty =>
    cases document.unique document'
    have spared := List.findSome?_eq_none_iff.1 colors _ chosen
    rw [colorFault?, checkColor_eq_number_iff.2 ⟨_, _, known, rfl, stopped⟩] at spared
    cases spared
  | expression document' among listed member given long =>
    cases document.unique document'
    have spared := List.findSome?_eq_none_iff.1 entries _ among
    rw [entryFault?, listed, Option.bind_some] at spared
    have stopped := List.findSome?_eq_none_iff.1 spared _ member
    rw [itemFault?_eq_some_iff.2 ⟨_, _, given, long, rfl⟩] at stopped
    cases stopped

/-- The members of bytes are those of the object that they describe. -/
theorem membersOfBytes_eq_ok_iff {text : String} :
    membersOfBytes text bytes = .ok members ↔ Documents bytes (.object members) := by
  constructor
  · intro found
    rw [membersOfBytes] at found
    rcases decoded : decodeUtf8 bytes with error | text <;> rw [decoded] at found
    · cases found
    · dsimp only at found
      rw [← unified] at found
      rcases read : Json.read (unified text) with (error | error) | value <;> rw [read] at found
      · cases found
      · cases found
      · cases value with
        | object members =>
          cases found
          exact ⟨text, decoded, read⟩
        | _ => cases found
  · rintro ⟨text, decoded, read⟩
    rw [membersOfBytes, decoded]
    dsimp only
    rw [← unified, read]

theorem load_of_documents (located : tree.locate path = .ok location)
    (found : tree.get? location = some (.file bytes))
    (document : Documents bytes (.object members)) :
    (load tree path strict).outcome =
      unlessFault (membersFault? path.text strict members) (usable members) := by
  rw [load_of_file located found, membersOfBytes_eq_ok_iff.2 document, ok_bind, outcome_ofMembers]

/-- What is wrong with a file as a whole is reported. -/
theorem load_of_defective {defect : FileDefect} (located : tree.locate path = .ok location)
    (found : tree.get? location = some (.file bytes)) (defective : Defective bytes defect) :
    (load tree path strict).outcome = .error (.aliases (.unreadable path.text defect)) := by
  cases defective with
  | encoding undecoded =>
    rw [load_of_file located found, membersOfBytes, undecoded]
    rfl
  | document decoded refused =>
    rw [load_of_file located found, membersOfBytes, decoded]
    dsimp only
    rw [← unified, refused]
    rfl
  | @notObject value document other =>
    obtain ⟨text, decoded, read⟩ := document
    rw [load_of_file located found, membersOfBytes, decoded]
    dsimp only
    rw [← unified, read]
    cases value with
    | object members => exact absurd rfl (other members)
    | _ => rfl
  | sectionNotObject document wrong =>
    rw [load_of_documents located found document, membersFault?, wrong]
    rfl

/-- Whatever the bytes, loading them comes to a store, to an alias error, or to a number that stops
it. -/
theorem load_cases (located : tree.locate path = .ok location)
    (found : tree.get? location = some (.file bytes)) :
    (∃ store, (load tree path strict).outcome = .ok store) ∨
      (∃ error, (load tree path strict).outcome = .error (.aliases error)) ∨
        ∃ error, (load tree path strict).outcome = .error (.number error) ∧ Stops bytes error := by
  have reported {defect : FileDefect} (defective : Defective bytes defect) :
      ∃ error, (load tree path strict).outcome = .error (.aliases error) :=
    ⟨_, load_of_defective located found defective⟩
  rcases decoded : decodeUtf8 bytes with error | text
  · exact .inr (.inl (reported (.encoding decoded)))
  rcases read : Json.read (unified text) with error | value
  · cases error with
    | malformed reason line column position =>
      exact .inr (.inl (reported (.document decoded read)))
    | number error =>
      obtain ⟨length, holds, rfl⟩ := Json.holdsLiteral_of_read read
      refine .inr (.inr ⟨_, ?_, .literal decoded read holds⟩)
      rw [load_of_file located found, membersOfBytes, decoded]
      dsimp only
      rw [← unified, read]
      rfl
  · have document : Documents bytes value := ⟨text, decoded, read⟩
    cases value with
    | object members =>
      rw [load_of_documents located found document]
      cases first : membersFault? path.text strict members with
      | none => exact .inl ⟨_, rfl⟩
      | some fault =>
        rcases membersFault?_cases document first with ⟨error, rfl⟩ | ⟨error, rfl, stops⟩
        · exact .inr (.inl ⟨error, rfl⟩)
        · exact .inr (.inr ⟨error, rfl, stops⟩)
    | _ =>
      refine .inr (.inl (reported (.notObject document fun members same => ?_)))
      cases same

/-- A file with a number that stops its loading is never loaded. -/
theorem load_of_stops {error : NumberError} (located : tree.locate path = .ok location)
    (found : tree.get? location = some (.file bytes)) (stops : Stops bytes error)
    (store : AliasStore) : (load tree path strict).outcome ≠ .ok store := by
  have ends {members : List (String × Json.Value)} (document : Documents bytes (.object members)) :
      (load tree path strict).outcome ≠ .ok store := by
    rw [load_of_documents located found document]
    exact fun loaded =>
      membersFault?_ne_none document stops (unlessFault_eq_ok_iff.1 loaded).1
  cases stops with
  | component document => exact ends document
  | expression document => exact ends document
  | literal decoded stopped =>
    rw [load_of_file located found, membersOfBytes, decoded]
    dsimp only
    rw [← unified, stopped]
    intro loaded
    cases loaded

end Loading

/-- Damaged files are reported. Whatever the bytes of an alias file, loading it gives a store or
reports an alias error, and nothing else comes of it than a number that cannot be read, in one of
three places. What is wrong with the file as a whole is reported as such. Of any other file all that
can be used is loaded, unless such a number stands in it or a colour is wrong that is read strictly;
a file with such a number is not loaded. -/
theorem damaged_files_are_reported {tree : Tree} {path : Path} {location : Location}
    {bytes : ByteArray} (located : tree.locate path = .ok location)
    (found : tree.get? location = some (.file bytes)) (strict : Bool) :
    ((∃ store, (load tree path strict).outcome = .ok store) ∨
      (∃ error, (load tree path strict).outcome = .error (.aliases error)) ∨
        ∃ error, (load tree path strict).outcome = .error (.number error) ∧ Stops bytes error) ∧
    (∀ defect, Defective bytes defect →
      (load tree path strict).outcome = .error (.aliases (.unreadable path.text defect))) ∧
    (∀ members, Documents bytes (.object members) →
      (∀ store, (load tree path strict).outcome = .ok store → store = usable members) ∧
      (wrongSection? members = none → (∀ error, ¬ Stops bytes error) →
        (strict = true → ∀ choice ∈ choicesOf members,
          ∃ color, checkColor choice.1 choice.2 = .ok color) →
        (load tree path strict).outcome = .ok (usable members))) ∧
    ∀ error, Stops bytes error → ∀ store, (load tree path strict).outcome ≠ .ok store := by
  refine ⟨load_cases located found, fun _ => load_of_defective located found,
    fun members document => ⟨fun store loaded => ?_, fun sound free colors => ?_⟩,
    fun error => load_of_stops located found⟩
  · rw [load_of_documents located found document] at loaded
    exact (unlessFault_eq_ok_iff.1 loaded).2.symm
  · rw [load_of_documents located found document,
      membersFault?_eq_none document sound free colors, unlessFault_none]

/-- The tree with a file of some bytes. -/
def treeOf (bytes : ByteArray) : Tree :=
  ⟨.ofList [(["w"], .directory), (["w", "f"], .file bytes)], ["w"]⟩

/-- A document in the old format with an entry that is no alias and with expressions that are none.
-/
def patchy : String :=
  "\x7b\"ogre\": 5, \"elf\": \x7b\"expressions\": [\"d\", 3, \"2d4\"]\x7d\x7d"

/-- What can be used of that document is loaded, and bytes that are no text are reported. -/
theorem damaged_files_are_reported_of_patchy :
    (∃ store, (load (treeOf patchy.toUTF8) (.ofString "f") true).outcome = .ok store ∧
      store.aliases.entries = [("elf", ⟨["2d4"], none⟩)]) ∧
    (load (treeOf ⟨#[0x7b, 0xff]⟩) (.ofString "f") false).outcome =
      .error (.aliases (.unreadable "f" (.encoding ⟨0xff, 1, 1, .invalidStart⟩))) := by
  have located (bytes : ByteArray) : (treeOf bytes).locate (.ofString "f") = .ok ["w", "f"] := by
    rfl
  have undecoded : decodeUtf8 ⟨#[0x7b, 0xff]⟩ = .error ⟨0xff, 1, 1, .invalidStart⟩ := by
    decide +kernel
  obtain ⟨members, document, entries⟩ : ∃ members, Documents patchy.toUTF8 (.object members) ∧
      (usable members).aliases.entries = [("elf", ⟨["2d4"], none⟩)] := by
    have read : (membersOfBytes "f" patchy.toUTF8).map (fun members =>
        (usable members).aliases.entries) = .ok [("elf", ⟨["2d4"], none⟩)] := by
      decide +kernel
    obtain ⟨members, found, entries⟩ := map_eq_ok_iff.1 read
    exact ⟨members, membersOfBytes_eq_ok_iff.1 found, entries⟩
  have reads :
      (load (treeOf patchy.toUTF8) (.ofString "f") true).outcome.toOption.isSome = true := by
    decide +kernel
  refine ⟨?_, ?_⟩
  · obtain ⟨-, -, known, -⟩ := damaged_files_are_reported (located patchy.toUTF8) rfl true
    cases loaded : (load (treeOf patchy.toUTF8) (.ofString "f") true).outcome with
    | error fault =>
      rw [loaded] at reads
      cases reads
    | ok store => exact ⟨store, rfl, (known members document).1 store loaded ▸ entries⟩
  · exact (damaged_files_are_reported (located _) rfl false).2.1 _ (.encoding undecoded)

/-- A file with a colour of which a component has a blank between its digits. -/
def spaced : ByteArray := "\x7b\"colors\": \x7b\"high\": \"rgb(1 2,3,4)\"\x7d\x7d".toUTF8

/-- However colours are read, it stops the loader. -/
theorem load_spaced (strict : Bool) : (load (treeOf spaced) (.ofString "f") strict).outcome =
    .error (.number (.notAnInteger "1 2")) := by
  have stopped : (load (treeOf spaced) (.ofString "f") strict).outcome.map AliasStore.legacy =
      .error (.number (.notAnInteger "1 2")) := by
    cases strict <;> decide +kernel
  exact map_eq_error_iff.1 stopped

/-- The colour of that file is neither reported nor left out, whether colours are read strictly or
not. -/
theorem spaced_component_is_not_reported :
    ¬ ((∃ store, (load (treeOf spaced) (.ofString "f") true).outcome = .ok store) ∨
      ∃ error, (load (treeOf spaced) (.ofString "f") true).outcome = .error (.aliases error)) ∧
    ¬ ((∃ store, (load (treeOf spaced) (.ofString "f") false).outcome = .ok store) ∨
      ∃ error, (load (treeOf spaced) (.ofString "f") false).outcome = .error (.aliases error)) := by
  rw [load_spaced, load_spaced]
  constructor <;> rintro (⟨_, loaded⟩ | ⟨_, refused⟩)
  · cases loaded
  · cases refused
  · cases loaded
  · cases refused

end DiceTray.AliasStore
