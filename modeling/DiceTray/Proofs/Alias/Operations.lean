import DiceTray.Proofs.Alias.Saving

/-!
# Sequences of operations

A store is loaded, changed and saved in any order, while others may change the files at any time.
What holds of one store holds after every sequence of operations, and an operation that fails leaves
the store and every file as they were.
-/

namespace DiceTray.AliasStore

open Files

/-- What can be done with a store. -/
inductive Operation
  /-- Reads a store from a path in place of the present one. -/
  | load (path : Path) (strict : Bool)
  | add (name : String) (expressions : List String) (comment : Option String)
  | remove (name : String)
  | setColor (role : String) (color : Json.Value)
  | save (path : Path)

/-- A store and the files around it. -/
structure State where
  store : AliasStore
  tree : Tree

/-- The state with a store in place of the old one, which stays where there is no new one. -/
def State.replaced (state : State) : Except Fault AliasStore → Except Fault Unit × State
  | .ok store => (.ok (), { state with store })
  | .error fault => (.error fault, state)

/-- Carries out an operation. -/
def Operation.apply (operation : Operation) (state : State) : Except Fault Unit × State :=
  match operation with
  | .load path strict => state.replaced (AliasStore.load state.tree path strict).outcome
  | .add name expressions comment =>
    state.replaced ((state.store.add name expressions comment).outcome.map Prod.fst)
  | .remove name => state.replaced ((state.store.remove name).map Prod.fst)
  | .setColor role color => state.replaced (state.store.setColor role color)
  | .save path =>
    let (saved, tree) := state.store.save state.tree path
    { state with tree }.replaced saved.outcome

/-- What happens to a store and its files. -/
inductive Event
  | operation (operation : Operation)
  /-- Others change the files in any way. -/
  | change (tree : Tree)

/-- The state after an event. -/
def State.next (state : State) : Event → State
  | .operation operation => (operation.apply state).2
  | .change tree => { state with tree }

/-- The state after events, one after the other. -/
def State.after (state : State) (events : List Event) : State :=
  events.foldl State.next state

/-- The state after events that begin with the store without aliases. -/
def stateAfter (tree : Tree) (events : List Event) : State := State.after ⟨empty, tree⟩ events

/-- What holds of a store at all times. -/
structure Consistent (store : AliasStore) : Prop where
  /-- Every alias has expressions, and all of them can be read. -/
  legible : ∀ name entry, store.get? name = some entry →
    entry.expressions ≠ [] ∧
      ∀ text ∈ entry.expressions, ∃ expression, Expression.parse text = .ok expression
  /-- Every chosen colour may be stored for its role. -/
  accepted : ∀ role color, store.colors.get? role = some color →
    checkColor role.name (.text color) = .ok (role, color)
  /-- The colours in use are those of the two roles, the high one first. -/
  roles : store.highlightColors.map Prod.fst = [.high, .low]
  /-- They are colours, whether they were chosen or not. -/
  highlights : ∀ choice ∈ store.highlightColors, isColor choice.2 = .ok true
  /-- The listing has the aliases and nothing else. -/
  listed : ∀ name entry, (name, entry) ∈ store.listing ↔ store.get? name = some entry
  /-- It has each of them once, in the order of the names. -/
  ascending : store.listing.Pairwise fun left right => left.1 < right.1

variable {store : AliasStore} {state : State} {operation : Operation} {fault : Fault}

theorem mem_listing_iff (store : AliasStore) (name : String) (entry : Alias) :
    (name, entry) ∈ store.listing ↔ store.get? name = some entry :=
  store.listing_perm.mem_iff.trans (store.aliases.mem_entries_iff name entry)

/-- No name is listed twice. -/
theorem listing_pairwise_lt (store : AliasStore) :
    store.listing.Pairwise fun left right => left.1 < right.1 := by
  have distinct : store.listing.Pairwise fun left right => left.1 ≠ right.1 :=
    List.pairwise_map.1 store.nodup_names_listing
  refine (store.listing_pairwise_le.and distinct).imp fun both => ?_
  exact Std.lt_of_le_of_ne both.1 both.2

theorem isColor_defaultColor (role : Role) : isColor role.defaultColor = .ok true := by
  cases role <;> decide +kernel

theorem Valid.isColor_color (valid : store.Valid) (role : Role) :
    isColor (store.color role) = .ok true := by
  rw [color]
  cases chosen : store.colors.get? role with
  | some color => exact valid.colors role color chosen
  | none => exact isColor_defaultColor role

/-- Every role has a default colour. -/
theorem mem_keys_defaultColors (role : Role) : role ∈ defaultColors.keys := by
  cases role <;> decide

/-- The chosen colours stand in the places of the defaults. -/
theorem keys_highlightColors (store : AliasStore) :
    store.highlightColors.map Prod.fst = defaultColors.keys :=
  OrderedMap.keys_insertAll_of_subset fun choice _ => mem_keys_defaultColors choice.1

/-- The colour in use for a role is the chosen one, or else the default. -/
theorem mem_highlightColors_iff (store : AliasStore) (role : Role) (color : String) :
    (role, color) ∈ store.highlightColors ↔ store.color role = color := by
  have default : defaultColors.get? role = some role.defaultColor := by cases role <;> rfl
  rw [highlightColors, OrderedMap.mem_entries_iff, OrderedMap.get?_merge, default,
    AliasStore.color]
  cases store.colors.get? role <;> simp

/-- A store whose parts were checked is consistent. -/
theorem Valid.consistent (valid : store.Valid) : store.Consistent where
  legible := valid.aliases
  accepted role color chosen :=
    checkColor_eq_ok_iff.2 ⟨Role.ofName?_name role, rfl, valid.colors role color chosen⟩
  roles := store.keys_highlightColors
  highlights := by
    rintro ⟨role, color⟩ member
    obtain rfl := (store.mem_highlightColors_iff role color).1 member
    exact valid.isColor_color role
  listed := store.mem_listing_iff
  ascending := store.listing_pairwise_lt

/-- A new store was made by an operation that succeeded. -/
theorem reachable_replaced {result : Except Fault AliasStore} (before : Reachable state.store)
    (made : ∀ store, result = .ok store → Reachable store) :
    Reachable (state.replaced result).2.store := by
  cases result with
  | ok store => exact made store rfl
  | error fault => exact before

/-- An operation keeps a store reachable, whether it succeeds or fails. -/
theorem Operation.reachable_apply (operation : Operation) (before : Reachable state.store) :
    Reachable (operation.apply state).2.store := by
  cases operation with
  | load path strict => exact reachable_replaced before fun _ done => .load done
  | add name expressions comment =>
    rw [apply]
    refine reachable_replaced before fun store done => ?_
    obtain ⟨⟨changed, added⟩, success, rfl⟩ := map_eq_ok_iff.1 done
    exact .add before success
  | remove name =>
    refine reachable_replaced before fun store done => ?_
    obtain ⟨⟨changed, removed⟩, success, rfl⟩ := map_eq_ok_iff.1 done
    exact .remove before success
  | setColor role color => exact reachable_replaced before fun _ done => .setColor before done
  | save path =>
    have kept : Reachable
        ({ state with tree := (state.store.save state.tree path).2 } : State).store := before
    exact reachable_replaced kept fun _ done => .save before done

/-- Events keep a store reachable. -/
theorem State.reachable_after (events : List Event) (before : Reachable state.store) :
    Reachable (state.after events).store := by
  induction events generalizing state with
  | nil => exact before
  | cons event rest inductionHypothesis =>
    cases event with
    | operation operation => exact inductionHypothesis (operation.reachable_apply before)
    | change tree => exact inductionHypothesis before

theorem replaced_eq_error {result : Except Fault AliasStore}
    (failed : (state.replaced result).1 = .error fault) :
    result = .error fault ∧ (state.replaced result).2 = state := by
  cases result with
  | ok store => cases failed
  | error problem =>
    cases failed
    exact ⟨rfl, rfl⟩

/-- An operation that fails leaves the store and every file as they were. -/
theorem Operation.apply_of_error (failed : (operation.apply state).1 = .error fault) :
    (operation.apply state).2.store = state.store ∧
      state.tree.SameFiles (operation.apply state).2.tree := by
  have unchanged {result : Except Fault AliasStore}
      (refused : (state.replaced result).1 = .error fault) :
      (state.replaced result).2.store = state.store ∧
        state.tree.SameFiles (state.replaced result).2.tree := by
    rw [(replaced_eq_error refused).2]
    exact ⟨rfl, .refl state.tree⟩
  cases operation with
  | load path strict => exact unchanged failed
  | add name expressions comment =>
    rw [apply] at failed ⊢
    exact unchanged failed
  | remove name => exact unchanged failed
  | setColor role color => exact unchanged failed
  | save path =>
    -- saving alone touches the tree, and may have made directories
    obtain ⟨refused, left⟩ := replaced_eq_error failed
    have result : (Operation.apply (.save path) state).2 =
        { state with tree := (state.store.save state.tree path).2 } := left
    rw [result]
    exact ⟨rfl, sameFiles_save_of_error refused⟩

/-- Whichever of the expressions of an alias cannot be read, it is not stored. -/
theorem Operation.apply_add_of_illegible {name : String} {expressions : List String}
    {comment : Option String}
    (illegible : ∃ text ∈ expressions, ∀ expression,
      Expression.parse (Text.trim text) ≠ .ok expression) :
    ∃ fault, ((Operation.add name expressions comment).apply state).1 = .error fault := by
  obtain ⟨text, member, unread⟩ := illegible
  rw [apply]
  cases result : (state.store.add name expressions comment).outcome with
  | error fault => exact ⟨fault, rfl⟩
  | ok made =>
    obtain ⟨changed, added⟩ := made
    obtain ⟨-, rfl, legible, -⟩ := add_eq_ok_iff.1 result
    obtain ⟨expression, parsed⟩ := legible.2 _ (List.mem_map_of_mem member)
    exact absurd parsed (unread expression)

/-- Operations keep a store consistent, and those that fail change nothing. From the store without
aliases, and whatever files there are, any events lead to a store whose aliases have expressions
that can be read, whose colours are colours, and whose listings have each alias once in the order of
the names. An operation that then fails leaves the store as it was, with the order of its aliases
and whether it is in the old format, and every file with the bytes it had; and storing an alias
fails whichever of its expressions is wrong. -/
theorem operations_keep_consistent (tree : Tree) (events : List Event) :
    (stateAfter tree events).store.Consistent ∧
      (∀ operation : Operation, ∀ fault,
        (operation.apply (stateAfter tree events)).1 = .error fault →
          (operation.apply (stateAfter tree events)).2.store = (stateAfter tree events).store ∧
            (stateAfter tree events).tree.SameFiles
              (operation.apply (stateAfter tree events)).2.tree) ∧
      ∀ name expressions comment,
        (∃ text ∈ expressions, ∀ expression,
          Expression.parse (Text.trim text) ≠ .ok expression) →
        ∃ fault,
          ((Operation.add name expressions comment).apply (stateAfter tree events)).1 =
            .error fault :=
  ⟨(State.reachable_after events .empty).valid.consistent,
    fun _ _ failed => Operation.apply_of_error failed,
    fun _ _ _ illegible => Operation.apply_add_of_illegible illegible⟩

/-- A tree with an alias file in the old format, one of whose aliases cannot be read. -/
def oldFormat : Tree where
  entries := .ofList [(["w"], .directory), (["w", "kept"],
    .file "\x7b\"goblin\": \x7b\"expressions\": [\"d6\"]\x7d, \"ogre\": [\"d\"]\x7d".toUTF8)]
  workingDirectory := ["w"]

/-- The old file is loaded, and an alias is added; a second one with a wrong expression behind a
right one is refused, and the store is still one in the old format, with the aliases it had. -/
theorem operations_keep_consistent_in_the_old_format :
    ∃ events : List Event, ∃ state, state = stateAfter ⟨.empty, ["w"]⟩ events ∧
      state.store.aliases.entries = [("goblin", ⟨["d6"], none⟩), ("elf", ⟨["2d4"], none⟩)] ∧
      state.store.legacy = true ∧ state.store.Consistent ∧
      ∃ fault, ((Operation.add "troll" ["d8", "d"] none).apply state).1 = .error fault ∧
        ((Operation.add "troll" ["d8", "d"] none).apply state).2.store = state.store := by
  have unread : ∀ expression, Expression.parse (Text.trim "d") ≠ .ok expression := by
    have refused : (Expression.parse (Text.trim "d")).toOption = none := by decide +kernel
    intro expression parsed
    rw [parsed] at refused
    cases refused
  let events : List Event := [.change oldFormat, .operation (.load (.ofString "kept") true),
    .operation (.add " elf" ["2d4 "] none)]
  obtain ⟨consistent, kept, refuses⟩ := operations_keep_consistent ⟨.empty, ["w"]⟩ events
  obtain ⟨fault, failed⟩ := refuses "troll" ["d8", "d"] none ⟨"d", by simp, unread⟩
  exact ⟨events, _, rfl, by decide +kernel, by decide +kernel, consistent, fault, failed,
    (kept _ fault failed).1⟩

end DiceTray.AliasStore
