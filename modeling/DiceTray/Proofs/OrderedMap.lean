import DiceTray.OrderedMap
import Mathlib.Data.List.Nodup

/-!
# What ordered maps hold

The bindings of a map are what is found in it. Maps in which the same is found have the same
bindings in some order, and binding a key to the value that it has changes nothing.
-/

namespace DiceTray

universe u v

variable {κ : Type u} {ν : Type v} [DecidableEq κ]

/-- Where no key occurs twice, a value is found at a key exactly when it is bound there. -/
theorem lookup_eq_some_iff_mem {entries : List (κ × ν)} (distinct : (entries.map Prod.fst).Nodup)
    (key : κ) (value : ν) : entries.lookup key = some value ↔ (key, value) ∈ entries := by
  induction entries with
  | nil => simp
  | cons entry rest inductionHypothesis =>
    obtain ⟨first, held⟩ := entry
    obtain ⟨fresh, distinct⟩ := List.nodup_cons.1 distinct
    rw [lookup_entry, List.mem_cons]
    by_cases here : key = first
    · subst here
      have elsewhere : (key, value) ∉ rest := fun later =>
        fresh (List.mem_map.2 ⟨_, later, rfl⟩)
      simp [elsewhere, eq_comm]
    · rw [if_neg here, inductionHypothesis distinct]
      simp [here]

/-- A value at a key that is not yet there goes to the end. -/
theorem alterEntries_of_notMem {key : κ} {change : Option ν → ν} {entries : List (κ × ν)}
    (absent : key ∉ entries.map Prod.fst) :
    alterEntries key change entries = entries ++ [(key, change none)] := by
  induction entries with
  | nil => rfl
  | cons entry rest inductionHypothesis =>
    simp only [List.map_cons, List.mem_cons, not_or] at absent
    rw [alterEntries, if_neg (Ne.symm absent.1), inductionHypothesis absent.2, List.cons_append]

/-- A value that is replaced by itself leaves the entries as they are. -/
theorem alterEntries_of_lookup {key : κ} {value : ν} {change : Option ν → ν}
    {entries : List (κ × ν)} (found : entries.lookup key = some value)
    (kept : change (some value) = value) : alterEntries key change entries = entries := by
  induction entries with
  | nil => cases found
  | cons entry rest inductionHypothesis =>
    obtain ⟨first, held⟩ := entry
    rw [lookup_entry] at found
    by_cases here : key = first
    · rw [if_pos here] at found
      cases found
      rw [alterEntries, if_pos here.symm, kept]
    · rw [if_neg here] at found
      rw [alterEntries, if_neg (Ne.symm here), inductionHypothesis found]

/-- Altering the value at a key twice is altering it once. -/
theorem alterEntries_alterEntries (key : κ) (first second : Option ν → ν)
    (entries : List (κ × ν)) : alterEntries key second (alterEntries key first entries) =
      alterEntries key (fun old => second (some (first old))) entries := by
  induction entries with
  | nil => simp [alterEntries]
  | cons entry rest inductionHypothesis =>
    obtain ⟨k, value⟩ := entry
    by_cases here : k = key
    · simp [alterEntries, here]
    · simp [alterEntries, here, inductionHypothesis]

namespace OrderedMap

/-- The bindings of a map are what is found in it. -/
theorem mem_entries_iff (map : OrderedMap κ ν) (key : κ) (value : ν) :
    (key, value) ∈ map.entries ↔ map.get? key = some value :=
  (lookup_eq_some_iff_mem map.nodup_keys key value).symm

/-- Maps in which the same is found at every key have the same bindings in some order. -/
theorem perm_of_get?_eq {left right : OrderedMap κ ν}
    (same : ∀ key, left.get? key = right.get? key) : left.entries.Perm right.entries := by
  apply (List.perm_ext_iff_of_nodup left.nodup_keys.of_map right.nodup_keys.of_map).2
  rintro ⟨key, value⟩
  rw [mem_entries_iff, mem_entries_iff, same]

/-- A new key stands behind the old ones, and a known one keeps its place. -/
theorem keys_alter (map : OrderedMap κ ν) (key : κ) (change : Option ν → ν) :
    (map.alter key change).keys = if key ∈ map.keys then map.keys else map.keys ++ [key] :=
  keys_alterEntries key change map.entries

/-- Binding a key to the value that it has changes nothing. -/
theorem insert_of_get?_eq {map : OrderedMap κ ν} {key : κ} {value : ν}
    (found : map.get? key = some value) : map.insert key value = map :=
  ext (alterEntries_of_lookup found rfl)

/-- Of two values that a key is bound to the second one counts. -/
theorem insert_insert (map : OrderedMap κ ν) (key : κ) (value other : ν) :
    (map.insert key value).insert key other = map.insert key other :=
  ext (alterEntries_alterEntries key _ _ map.entries)

/-- A new binding stands behind the others. -/
theorem entries_insert_of_notMem {map : OrderedMap κ ν} {key : κ} (value : ν)
    (absent : key ∉ map.keys) : (map.insert key value).entries = map.entries ++ [(key, value)] :=
  alterEntries_of_notMem absent

theorem insertAll_cons (map : OrderedMap κ ν) (binding : κ × ν) (rest : List (κ × ν)) :
    map.insertAll (binding :: rest) = (map.insert binding.1 binding.2).insertAll rest := rfl

/-- New bindings stand behind the others. -/
theorem entries_insertAll (bindings : List (κ × ν)) (map : OrderedMap κ ν)
    (distinct : (map.keys ++ bindings.map Prod.fst).Nodup) :
    (map.insertAll bindings).entries = map.entries ++ bindings := by
  induction bindings generalizing map with
  | nil => exact (List.append_nil _).symm
  | cons binding rest inductionHypothesis =>
    have absent : binding.1 ∉ map.keys := by
      intro present
      have apart := (List.nodup_append.1 distinct).2.2 _ present binding.1 (by simp)
      exact apart rfl
    have added := entries_insert_of_notMem binding.2 absent
    have grown : (map.insert binding.1 binding.2).keys = map.keys ++ [binding.1] := by
      rw [keys, added, List.map_append]
      rfl
    rw [insertAll_cons, inductionHypothesis _ (by rw [grown]; simpa using distinct), added,
      List.append_assoc]
    rfl

/-- Bindings without a repeated key are the bindings of their map. -/
theorem entries_ofList {bindings : List (κ × ν)} (distinct : (bindings.map Prod.fst).Nodup) :
    (ofList bindings).entries = bindings := by
  rw [ofList, entries_insertAll bindings empty (by simpa [keys, empty] using distinct)]
  rfl

/-- Of several bindings of a key the last one is found, and where there is none, what was bound
before. -/
theorem get?_insertAll (map : OrderedMap κ ν) (bindings : List (κ × ν)) (key : κ) :
    (map.insertAll bindings).get? key = (bindings.reverse.lookup key).or (map.get? key) := by
  rw [insertAll, List.foldl_eq_foldr_reverse]
  induction bindings.reverse with
  | nil => rfl
  | cons binding rest inductionHypothesis =>
    obtain ⟨last, value⟩ := binding
    rw [List.foldr_cons, get?_insert, lookup_entry, inductionHypothesis]
    split <;> rfl

theorem get?_ofList (bindings : List (κ × ν)) (key : κ) :
    (ofList bindings).get? key = bindings.reverse.lookup key := by
  rw [ofList, get?_insertAll]
  exact Option.or_none

/-- What a merged map holds comes from the second map, or else from the first. -/
theorem get?_merge (map other : OrderedMap κ ν) (key : κ) :
    (map.merge other).get? key = (other.get? key).or (map.get? key) := by
  have distinct : (other.entries.reverse.map Prod.fst).Nodup := by
    rw [List.map_reverse]
    exact List.nodup_reverse.2 other.nodup_keys
  have found : other.entries.reverse.lookup key = other.get? key := by
    ext value
    rw [lookup_eq_some_iff_mem distinct, List.mem_reverse, mem_entries_iff]
  rw [merge, get?_insertAll, found]

/-- Bindings of keys that are known keep the keys and their order. -/
theorem keys_insertAll_of_subset {map : OrderedMap κ ν} {bindings : List (κ × ν)}
    (known : ∀ binding ∈ bindings, binding.1 ∈ map.keys) :
    (map.insertAll bindings).keys = map.keys := by
  induction bindings generalizing map with
  | nil => rfl
  | cons binding rest inductionHypothesis =>
    obtain ⟨here, later⟩ := List.forall_mem_cons.1 known
    have kept : (map.insert binding.1 binding.2).keys = map.keys := by
      rw [insert, keys_alter, if_pos here]
    rw [insertAll_cons, inductionHypothesis (by rwa [kept]), kept]

end OrderedMap

end DiceTray
