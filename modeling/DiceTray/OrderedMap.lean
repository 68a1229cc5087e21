/-!
# Ordered maps

Finite maps that remember the order in which their keys were first bound. Binding a key again keeps
its place. No key occurs twice, and the type says so.
-/

namespace DiceTray

universe u v

variable {κ : Type u} {ν : Type v} [DecidableEq κ]

/-- The entries after the value at a key was replaced by a function of what it was; a new key goes
to the end. -/
def alterEntries (key : κ) (change : Option ν → ν) : List (κ × ν) → List (κ × ν)
  | [] => [(key, change none)]
  | (k, value) :: rest =>
    if k = key then (k, change (some value)) :: rest
    else (k, value) :: alterEntries key change rest

/-- The keys after an alteration: a new one stands at the end. -/
theorem keys_alterEntries (key : κ) (change : Option ν → ν) (entries : List (κ × ν)) :
    (alterEntries key change entries).map Prod.fst =
      if key ∈ entries.map Prod.fst then entries.map Prod.fst
      else entries.map Prod.fst ++ [key] := by
  induction entries with
  | nil => simp [alterEntries]
  | cons entry rest inductionHypothesis =>
    obtain ⟨k, value⟩ := entry
    by_cases same : k = key
    · simp [alterEntries, same]
    · simp only [alterEntries, same, if_false, List.map_cons, inductionHypothesis, List.mem_cons,
        Ne.symm same, false_or]
      split <;> simp

theorem nodup_keys_alterEntries {key : κ} {change : Option ν → ν} {entries : List (κ × ν)}
    (distinct : (entries.map Prod.fst).Nodup) :
    ((alterEntries key change entries).map Prod.fst).Nodup := by
  rw [keys_alterEntries]
  split
  · exact distinct
  · next absent =>
    exact List.nodup_append.2 ⟨distinct, by simp, fun k present k' equal => by
      simp only [List.mem_singleton] at equal
      subst equal
      exact fun same => absent (same ▸ present)⟩

/-- Looking up in a list with a first entry. -/
theorem lookup_entry (key other : κ) (value : ν) (rest : List (κ × ν)) :
    ((key, value) :: rest).lookup other =
      if other = key then some value else rest.lookup other := by
  rw [List.lookup_cons]
  by_cases same : other = key
  · simp [same]
  · rw [beq_eq_false_iff_ne.2 same, if_neg same]

/-- Looking up after an alteration: only the value at the altered key changed. -/
theorem lookup_alterEntries (key other : κ) (change : Option ν → ν) (entries : List (κ × ν)) :
    (alterEntries key change entries).lookup other =
      if other = key then some (change (entries.lookup key)) else entries.lookup other := by
  induction entries with
  | nil => rw [alterEntries, lookup_entry, List.lookup_nil, List.lookup_nil]
  | cons entry rest inductionHypothesis =>
    obtain ⟨k, value⟩ := entry
    rw [alterEntries]
    by_cases here : k = key
    · rw [if_pos here, lookup_entry, lookup_entry, lookup_entry, here, if_pos rfl]
      by_cases same : other = key <;> simp [same]
    · rw [if_neg here, lookup_entry, lookup_entry, lookup_entry, inductionHypothesis,
        if_neg (Ne.symm here)]
      by_cases found : other = k
      · rw [if_pos found, if_neg (found ▸ here), if_pos found]
      · rw [if_neg found, if_neg found]

/-- Looking up among the entries without a key. -/
theorem lookup_filter_ne (key other : κ) (entries : List (κ × ν)) :
    (entries.filter fun entry => entry.1 ≠ key).lookup other =
      if other = key then none else entries.lookup other := by
  induction entries with
  | nil => simp
  | cons entry rest inductionHypothesis =>
    obtain ⟨k, value⟩ := entry
    by_cases here : k = key
    · rw [List.filter_cons_of_neg (by simp [here]), inductionHypothesis, lookup_entry, here]
      by_cases same : other = key <;> simp [same]
    · rw [List.filter_cons_of_pos (by simp [here]), lookup_entry, lookup_entry,
        inductionHypothesis]
      by_cases found : other = k
      · rw [if_pos found, if_neg (found ▸ here), if_pos found]
      · rw [if_neg found, if_neg found]

/-- A finite map in the order of first binding. -/
structure OrderedMap (κ : Type u) (ν : Type v) where
  /-- The bindings, oldest key first. -/
  entries : List (κ × ν)
  nodup_keys : (entries.map Prod.fst).Nodup

namespace OrderedMap

/-- The map without bindings. -/
def empty : OrderedMap κ ν := ⟨[], by simp⟩

/-- The keys, oldest first. -/
def keys (map : OrderedMap κ ν) : List κ := map.entries.map Prod.fst

/-- The value at a key. -/
def get? (map : OrderedMap κ ν) (key : κ) : Option ν := map.entries.lookup key

/-- Whether a key is bound. -/
def contains (map : OrderedMap κ ν) (key : κ) : Bool := (map.get? key).isSome

/-- Replaces the value at a key by a function of what it was. -/
def alter (map : OrderedMap κ ν) (key : κ) (change : Option ν → ν) : OrderedMap κ ν :=
  ⟨alterEntries key change map.entries, nodup_keys_alterEntries map.nodup_keys⟩

/-- Binds a key to a value. -/
def insert (map : OrderedMap κ ν) (key : κ) (value : ν) : OrderedMap κ ν :=
  map.alter key fun _ => value

/-- Drops the binding of a key. -/
def erase (map : OrderedMap κ ν) (key : κ) : OrderedMap κ ν :=
  ⟨map.entries.filter fun entry => entry.1 ≠ key,
    map.nodup_keys.sublist (List.Sublist.map _ List.filter_sublist)⟩

/-- An alteration changes the value at its key alone. -/
theorem get?_alter (map : OrderedMap κ ν) (key other : κ) (change : Option ν → ν) :
    (map.alter key change).get? other =
      if other = key then some (change (map.get? key)) else map.get? other :=
  lookup_alterEntries key other change map.entries

/-- A binding is found at its key, and all others are as before. -/
theorem get?_insert (map : OrderedMap κ ν) (key other : κ) (value : ν) :
    (map.insert key value).get? other = if other = key then some value else map.get? other :=
  get?_alter map key other fun _ => value

/-- Nothing is found at a key that was dropped, and all others are as before. -/
theorem get?_erase (map : OrderedMap κ ν) (key other : κ) :
    (map.erase key).get? other = if other = key then none else map.get? other :=
  lookup_filter_ne key other map.entries

/-- Binds keys to values, one after the other. -/
def insertAll (map : OrderedMap κ ν) (bindings : List (κ × ν)) : OrderedMap κ ν :=
  bindings.foldl (fun map binding => map.insert binding.1 binding.2) map

/-- The map of a list of bindings, of which the last for a key counts. -/
def ofList (bindings : List (κ × ν)) : OrderedMap κ ν := empty.insertAll bindings

/-- The bindings of two maps; where both bind a key, the second one counts. -/
def merge (map other : OrderedMap κ ν) : OrderedMap κ ν := map.insertAll other.entries

omit [DecidableEq κ] in
/-- Maps with the same bindings in the same order are equal. -/
@[ext] theorem ext {left right : OrderedMap κ ν} (same : left.entries = right.entries) :
    left = right := by
  cases left; cases right; simp_all

instance [DecidableEq ν] : DecidableEq (OrderedMap κ ν) := fun left right =>
  decidable_of_iff (left.entries = right.entries) ⟨ext, fun equal => congrArg entries equal⟩

instance : Inhabited (OrderedMap κ ν) := ⟨empty⟩

end OrderedMap

end DiceTray
