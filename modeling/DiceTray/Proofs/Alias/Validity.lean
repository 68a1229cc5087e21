import DiceTray.Alias.File
import DiceTray.Proofs.OrderedMap
import DiceTray.Proofs.Sequence

/-!
# Valid stores

Whatever is put into a store was checked, by the operations and by the loader alike: every alias has
expressions, all of them can be read, and every colour is one. Each operation keeps this, so it
holds of every store that can come about.
-/

namespace DiceTray

/-- An alias has expressions, and all of them can be read. -/
def Alias.Legible (entry : Alias) : Prop :=
  entry.expressions ≠ [] ∧
    ∀ text ∈ entry.expressions, ∃ expression, Expression.parse text = .ok expression

theorem Role.ofName?_name (role : Role) : Role.ofName? role.name = some role := by
  cases role <;> rfl

/-- A colour may be stored exactly when its role exists and it is a text that gives a colour. -/
theorem checkColor_eq_ok_iff {name : String} {value : Json.Value} {role : Role} {color : String} :
    checkColor name value = .ok (role, color) ↔
      Role.ofName? name = some role ∧ value.text? = some color ∧ isColor color = .ok true := by
  rw [checkColor]
  split
  · next missing => simp [missing]
  · next found known =>
    split
    · next wrong => simp [wrong]
    · next given text =>
      split
      · next result =>
        simp only [text, reduceCtorEq, Option.some.injEq, false_iff, not_and]
        rintro - rfl
        simp [result]
      · next result =>
        simp only [text, reduceCtorEq, Option.some.injEq, false_iff, not_and]
        rintro - rfl
        simp [result]
      · next result =>
        simp only [known, text, Except.ok.injEq, Prod.mk.injEq, Option.some.injEq]
        exact and_congr_right fun _ =>
          ⟨fun same => ⟨same, same ▸ result⟩, fun both => both.1⟩

namespace AliasStore

/-- Every alias of a store can be rolled, and every chosen colour is one. -/
structure Valid (store : AliasStore) : Prop where
  aliases : ∀ name entry, store.aliases.get? name = some entry → entry.Legible
  colors : ∀ role color, store.colors.get? role = some color → isColor color = .ok true

theorem checkExpressions_eq_ok_iff {texts : List String} : checkExpressions texts = .ok () ↔
    ∀ text ∈ texts, ∃ expression, Expression.parse text = .ok expression := by
  induction texts with
  | nil => simp [checkExpressions]
  | cons text rest inductionHypothesis =>
    rw [checkExpressions, List.forall_mem_cons, ← inductionHypothesis]
    cases Expression.parse text with
    | ok expression => simp
    | error error => simp

/-- An alias is stored exactly when its name is not blank and it has expressions, all of which can
be read; it then stands under its trimmed name, and nothing else changes. -/
theorem add_eq_ok_iff {store changed : AliasStore} {name : String} {expressions : List String}
    {comment : Option String} {added : Alias} :
    (store.add name expressions comment).outcome = .ok (changed, added) ↔
      Text.trim name ≠ "" ∧ added = ⟨expressions.map Text.trim, comment⟩ ∧ added.Legible ∧
        changed = { store with aliases := store.aliases.insert (Text.trim name) added } := by
  rw [add]
  dsimp only
  split
  · next blank =>
    have unnamed : Text.trim name = "" := String.isEmpty_iff.1 blank
    simp [unnamed]
  · next shown =>
    have named : Text.trim name ≠ "" := fun blank => shown (String.isEmpty_iff.2 blank)
    split
    · next missing =>
      have absent : expressions = [] := by simpa using missing
      simp only [Logged.outcome_failed, reduceCtorEq, false_iff, not_and]
      rintro - rfl legible
      exact absurd (by rw [absent]; rfl) legible.1
    · next present =>
      have some : expressions.map Text.trim ≠ [] := by simpa using present
      rw [Logged.outcome_bind, Logged.outcome_ofExcept, mapError_id, bind_eq_ok_iff]
      constructor
      · rintro ⟨⟨⟩, checked, done⟩
        have each := checkExpressions_eq_ok_iff.1 checked
        -- whether an alias is replaced changes the log alone
        split at done <;> cases done <;> exact ⟨named, rfl, ⟨some, each⟩, rfl⟩
      · rintro ⟨-, rfl, legible, rfl⟩
        refine ⟨(), checkExpressions_eq_ok_iff.2 legible.2, ?_⟩
        split <;> rfl

/-- An alias is removed exactly when there is one with the name, and nothing else changes. -/
theorem remove_eq_ok_iff {store changed : AliasStore} {name : String} {removed : Alias} :
    store.remove name = .ok (changed, removed) ↔
      store.get? name = some removed ∧
        changed = { store with aliases := store.aliases.erase name } := by
  rw [remove]
  split
  · next entry found => simp [found, and_comm, eq_comm]
  · next missing => simp [missing]

/-- A colour is chosen exactly when it may be stored, and nothing else changes. -/
theorem setColor_eq_ok_iff {store changed : AliasStore} {name : String} {value : Json.Value} :
    store.setColor name value = .ok changed ↔
      ∃ role color, checkColor name value = .ok (role, color) ∧
        changed = { store with colors := store.colors.insert role color } := by
  rw [setColor, bind_eq_ok_iff]
  constructor
  · rintro ⟨⟨role, color⟩, checked, done⟩
    exact ⟨role, color, checked, (Except.ok.inj done).symm⟩
  · rintro ⟨role, color, checked, rfl⟩
    exact ⟨(role, color), checked, rfl⟩

section Loader

/-- The expressions that are kept of an entry can be read. -/
theorem legible_of_keepExpressions {name : String} {items : List Json.Value} {texts : List String}
    (kept : (keepExpressions name items).outcome = .ok texts) :
    ∀ text ∈ texts, ∃ expression, Expression.parse text = .ok expression := by
  induction items generalizing texts with
  | nil =>
    cases kept
    exact nofun
  | cons item rest inductionHypothesis =>
    rw [keepExpressions] at kept
    split at kept
    · exact inductionHypothesis kept
    · next text given =>
      split at kept
      · cases kept
      · exact inductionHypothesis kept
      · next expression parsed =>
        rw [Logged.outcome_bind, bind_eq_ok_iff] at kept
        obtain ⟨others, later, same⟩ := kept
        cases same
        rw [List.forall_mem_cons]
        exact ⟨⟨expression, parsed⟩, inductionHypothesis later⟩

theorem legible_of_aliasOfEntry {name : String} {entry : Json.Value} {found : Alias}
    (read : (aliasOfEntry name entry).outcome = .ok (some found)) : found.Legible := by
  rw [aliasOfEntry] at read
  split at read
  · cases read
  · next items given =>
    rw [Logged.outcome_bind, bind_eq_ok_iff] at read
    obtain ⟨texts, kept, made⟩ := read
    split at made
    · cases made
    · next present =>
      cases made
      exact ⟨by simpa using present, legible_of_keepExpressions kept⟩

theorem legible_of_readAliases {members : List (String × Json.Value)}
    {aliases result : OrderedMap String Alias}
    (before : ∀ name entry, aliases.get? name = some entry → entry.Legible)
    (read : (readAliases aliases members).outcome = .ok result) :
    ∀ name entry, result.get? name = some entry → entry.Legible := by
  induction members generalizing aliases with
  | nil =>
    cases read
    exact before
  | cons member rest inductionHypothesis =>
    obtain ⟨name, entry⟩ := member
    rw [readAliases, Logged.outcome_bind, bind_eq_ok_iff] at read
    obtain ⟨found, fetched, later⟩ := read
    cases found with
    | none => exact inductionHypothesis before later
    | some found =>
      refine inductionHypothesis (fun other held => ?_) later
      rw [OrderedMap.get?_insert]
      split
      · intro same
        cases same
        exact legible_of_aliasOfEntry fetched
      · exact before other held

theorem isColor_of_readColors {path : String} {strict : Bool} {members : List (String × Json.Value)}
    {colors result : OrderedMap Role String}
    (before : ∀ role color, colors.get? role = some color → isColor color = .ok true)
    (read : (readColors path strict colors members).outcome = .ok result) :
    ∀ role color, result.get? role = some color → isColor color = .ok true := by
  induction members generalizing colors with
  | nil =>
    cases read
    exact before
  | cons member rest inductionHypothesis =>
    obtain ⟨name, value⟩ := member
    rw [readColors] at read
    split at read
    · next role color checked =>
      refine inductionHypothesis (fun other held => ?_) read
      rw [OrderedMap.get?_insert]
      split
      · intro same
        cases same
        exact (checkColor_eq_ok_iff.1 checked).2.2
      · exact before other held
    · split at read
      · cases read
      · exact inductionHypothesis before read
    · cases read

theorem valid_empty : empty.Valid := ⟨nofun, nofun⟩

theorem valid_ofMembers {path : String} {strict : Bool} {members : List (String × Json.Value)}
    {store : AliasStore} (read : (ofMembers path strict members).outcome = .ok store) :
    store.Valid := by
  rw [ofMembers] at read
  split at read
  · simp only [Logged.outcome_bind, Logged.outcome_note, ok_bind, bind_eq_ok_iff] at read
    obtain ⟨aliases, entries, same⟩ := read
    cases same
    exact ⟨legible_of_readAliases valid_empty.aliases entries, valid_empty.colors⟩
  · simp only [Logged.outcome_bind, bind_eq_ok_iff] at read
    obtain ⟨_, -, _, -, colors, choices, aliases, entries, same⟩ := read
    cases same
    exact ⟨legible_of_readAliases valid_empty.aliases entries,
      isColor_of_readColors valid_empty.colors choices⟩

/-- What comes of loading, without the records. -/
theorem outcome_load (tree : Files.Tree) (path : Files.Path) (strict : Bool) :
    (load tree path strict).outcome = do
      if ← (tree.isPresent path).mapError Fault.file then
        let bytes ← (tree.read path).mapError Fault.file
        let members ← membersOfBytes path.text bytes
        (ofMembers path.text strict members).outcome
      else return empty := by
  rw [load, Logged.outcome_bind]
  refine congrArg _ (funext fun present => ?_)
  cases present with
  | false => rfl
  | true =>
    simp only [if_true, Logged.outcome_bind, Logged.outcome_ofExcept, mapError_id,
      Logged.outcome_note, Logged.outcome_pure, ok_bind]
    refine congrArg _ (funext fun bytes => congrArg _ (funext fun members => ?_))
    cases (ofMembers path.text strict members).outcome <;> rfl

theorem valid_load {tree : Files.Tree} {path : Files.Path} {strict : Bool} {store : AliasStore}
    (loaded : (load tree path strict).outcome = .ok store) : store.Valid := by
  rw [outcome_load, bind_eq_ok_iff] at loaded
  obtain ⟨present, -, read⟩ := loaded
  cases present with
  | false =>
    cases read
    exact valid_empty
  | true =>
    simp only [if_true, bind_eq_ok_iff] at read
    obtain ⟨_, -, _, -, made⟩ := read
    exact valid_ofMembers made

end Loader

section Operations

variable {store changed : AliasStore}

theorem Valid.add {name : String} {expressions : List String} {comment : Option String}
    {added : Alias} (valid : store.Valid)
    (done : (store.add name expressions comment).outcome = .ok (changed, added)) :
    changed.Valid := by
  obtain ⟨-, -, legible, rfl⟩ := add_eq_ok_iff.1 done
  refine ⟨fun other entry => ?_, valid.colors⟩
  rw [OrderedMap.get?_insert]
  split
  · intro same
    cases same
    exact legible
  · exact valid.aliases other entry

theorem Valid.remove {name : String} {removed : Alias} (valid : store.Valid)
    (done : store.remove name = .ok (changed, removed)) : changed.Valid := by
  obtain ⟨-, rfl⟩ := remove_eq_ok_iff.1 done
  refine ⟨fun other entry => ?_, valid.colors⟩
  rw [OrderedMap.get?_erase]
  split
  · intro found
    cases found
  · exact valid.aliases other entry

theorem Valid.setColor {role : String} {color : Json.Value} (valid : store.Valid)
    (done : store.setColor role color = .ok changed) : changed.Valid := by
  obtain ⟨role, color, checked, rfl⟩ := setColor_eq_ok_iff.1 done
  refine ⟨valid.aliases, fun other held => ?_⟩
  rw [OrderedMap.get?_insert]
  split
  · intro same
    cases same
    exact (checkColor_eq_ok_iff.1 checked).2.2
  · exact valid.colors other held

/-- A store that could be saved is as before, but no longer in the old format. -/
theorem eq_of_save {tree : Files.Tree} {path : Files.Path}
    (done : (store.save tree path).1.outcome = .ok changed) :
    changed = { store with legacy := false } := by
  rw [save] at done
  split at done
  · cases done
  · split at done
    · cases done
    · cases done
      rfl

theorem Valid.save {tree : Files.Tree} {path : Files.Path} (valid : store.Valid)
    (done : (store.save tree path).1.outcome = .ok changed) : changed.Valid := by
  rw [eq_of_save done]
  exact ⟨valid.aliases, valid.colors⟩

end Operations

/-- The stores that come about: from nothing or by loading, and then by operations that succeed. One
that fails leaves its store as it was. -/
inductive Reachable : AliasStore → Prop
  | empty : Reachable empty
  | load {tree : Files.Tree} {path : Files.Path} {strict : Bool} {store : AliasStore}
      (done : (load tree path strict).outcome = .ok store) : Reachable store
  | add {store changed : AliasStore} {name : String} {expressions : List String}
      {comment : Option String} {added : Alias} (before : Reachable store)
      (done : (store.add name expressions comment).outcome = .ok (changed, added)) :
      Reachable changed
  | remove {store changed : AliasStore} {name : String} {removed : Alias}
      (before : Reachable store) (done : store.remove name = .ok (changed, removed)) :
      Reachable changed
  | setColor {store changed : AliasStore} {role : String} {color : Json.Value}
      (before : Reachable store) (done : store.setColor role color = .ok changed) :
      Reachable changed
  | save {store changed : AliasStore} {tree : Files.Tree} {path : Files.Path}
      (before : Reachable store) (done : (store.save tree path).1.outcome = .ok changed) :
      Reachable changed

/-- Every store that comes about is valid. -/
theorem Reachable.valid {store : AliasStore} (reachable : Reachable store) : store.Valid := by
  induction reachable with
  | empty => exact valid_empty
  | load done => exact valid_load done
  | add before done inductionHypothesis => exact inductionHypothesis.add done
  | remove before done inductionHypothesis => exact inductionHypothesis.remove done
  | setColor before done inductionHypothesis => exact inductionHypothesis.setColor done
  | save before done inductionHypothesis => exact inductionHypothesis.save done

end AliasStore

end DiceTray
