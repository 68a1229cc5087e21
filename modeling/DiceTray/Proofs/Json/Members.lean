import DiceTray.Proofs.Json.Literals
import DiceTray.Proofs.OrderedMap

/-!
# Members of one name

A text may list several members of one name. Of these the reader keeps the last, in the place of the
first, in whatever object of the document they stand; so no name occurs twice in what it reads.
-/

namespace DiceTray.Json

/-- Members that stand in a text between the braces of an object, in the order of the text. -/
inductive Listed (text : List Char) : List (String × Value) → Prop
  /-- Nothing stands between the braces. -/
  | none : Listed text []
  /-- The members behind an opening brace, up to the closing one. -/
  | some {bound : Nat} {part rest : List Char} {written : List (String × Value)}
      (within : '{' :: part <:+ text)
      (read : readMembers bound (skipSpace part) = .ok (written, rest)) : Listed text written

/-- A value whose objects have the last member of each name that a text lists for them. -/
inductive Resolved (text : List Char) : Value → Prop
  | null : Resolved text .null
  | boolean (value : Bool) : Resolved text (.boolean value)
  | integer (value : Int) : Resolved text (.integer value)
  | float (value : Binary64) : Resolved text (.float value)
  | text (value : String) : Resolved text (.text value)
  | list {items : List Value} (each : ∀ item ∈ items, Resolved text item) :
      Resolved text (.list items)
  /-- An object, given what the text lists for it. -/
  | object {written : List (String × Value)} (listed : Listed text written)
      (each : ∀ member ∈ written, Resolved text member.2) :
      Resolved text (.object (OrderedMap.ofList written).entries)

namespace Resolved

variable {text : List Char} {members : List (String × Value)}

theorem exists_listed (resolved : Resolved text (.object members)) :
    ∃ written, Listed text written ∧ members = (OrderedMap.ofList written).entries := by
  cases resolved with
  | object listed each => exact ⟨_, listed, rfl⟩

theorem member (resolved : Resolved text (.object members)) {name : String} {value : Value}
    (found : members.lookup name = some value) : Resolved text value := by
  cases resolved with
  | @object written listed each =>
    change (OrderedMap.ofList written).get? name = some value at found
    rw [OrderedMap.get?_ofList] at found
    obtain ⟨before, after, parts, -⟩ := List.lookup_eq_some_iff.1 found
    refine each (name, value) (List.mem_reverse.1 ?_)
    rw [parts]
    exact List.mem_append_right _ List.mem_cons_self

end Resolved

theorem Reads.suffix {α : Type} {cs rest : List Char} {value : α}
    (reads : Reads cs (.ok (value, rest))) : rest <:+ cs := by
  cases reads with
  | value suffix => exact suffix

theorem resolved_of_readNumber {text whole cs rest : List Char} {negative : Bool} {value : Value}
    (read : readNumber negative whole cs = .ok (value, rest)) : Resolved text value := by
  rw [readNumber] at read
  dsimp only at read
  split at read
  · cases read
    exact .float _
  · split at read
    · split at read
      · cases read
      · cases read
        exact .integer _
    · cases read
      exact .float _

theorem resolved_of_readAtom {text cs rest : List Char} {value : Value}
    (read : readAtom cs = .ok (value, rest)) : Resolved text value := by
  have words : ∀ constant ∈ constants, Resolved text constant.2 := by
    simp only [constants, List.forall_mem_cons]
    exact ⟨.null, .boolean _, .boolean _, .float _, .float _, .float _, nofun⟩
  unfold readAtom at read
  split at read
  · next word found known =>
    cases read
    exact words _ (List.mem_of_find?_eq_some known)
  · -- A number is read in the same way with a sign and without one.
    dsimp only at read
    split at read <;> dsimp only at read <;> split at read
    · cases read
    · exact resolved_of_readNumber read
    · cases read
    · exact resolved_of_readNumber read

/-- What the readers of values, items and members read in a text is resolved. -/
theorem resolved_of_readValue (text : List Char) (bound : Nat) :
    (∀ cs value rest, cs <:+ text → readValue bound cs = .ok (value, rest) →
      Resolved text value) ∧
    (∀ cs items rest, cs <:+ text → readItems bound cs = .ok (items, rest) →
      ∀ item ∈ items, Resolved text item) ∧
    ∀ cs members rest, cs <:+ text → readMembers bound cs = .ok (members, rest) →
      ∀ member ∈ members, Resolved text member.2 := by
  induction bound with
  | zero =>
    refine ⟨fun cs value rest _ read => ?_, fun cs items rest _ read => ?_,
      fun cs members rest _ read => ?_⟩
    · rw [readValue] at read
      cases read
    · rw [readItems] at read
      cases read
    · rw [readMembers] at read
      cases read
  | succ bound inductionHypothesis =>
    obtain ⟨values, items, members⟩ := inductionHypothesis
    obtain ⟨valueReads, itemsRead, membersRead⟩ := reads_readValue bound
    refine ⟨fun cs value rest within read => ?_, fun cs found rest within read => ?_,
      fun cs found rest within read => ?_⟩
    · rw [readValue.eq_def] at read
      dsimp only at read
      split at read
      · next body =>
        obtain ⟨⟨name, after⟩, -, same⟩ := bind_eq_ok_iff.1 read
        cases same
        exact .text name
      · next body =>
        split at read
        · cases read
          exact .list (List.forall_mem_nil _)
        · obtain ⟨⟨found, after⟩, listed, same⟩ := bind_eq_ok_iff.1 read
          cases same
          refine .list (items _ found after ?_ listed)
          exact (skipSpace_suffix body).trans ((List.suffix_cons '[' body).trans within)
      · next body =>
        split at read
        · cases read
          exact .object .none (List.forall_mem_nil _)
        · obtain ⟨⟨found, after⟩, listed, same⟩ := bind_eq_ok_iff.1 read
          cases same
          refine .object (.some within listed) (members _ found after ?_ listed)
          exact (skipSpace_suffix body).trans ((List.suffix_cons '{' body).trans within)
      · exact resolved_of_readAtom read
    · rw [readItems] at read
      obtain ⟨⟨item, after⟩, first, read⟩ := bind_eq_ok_iff.1 read
      dsimp only at read
      have here := values cs item after within first
      have left := (first ▸ valueReads cs).suffix.trans within
      split at read
      · cases read
        exact List.forall_mem_singleton.2 here
      · next behind comma =>
        obtain ⟨⟨others, last⟩, later, same⟩ := bind_eq_ok_iff.1 read
        cases same
        refine List.forall_mem_cons.2 ⟨here, items _ others last ?_ later⟩
        exact (skipSpace_suffix behind).trans ((suffix_of_skipSpace comma).trans left)
      · cases read
    · rw [readMembers.eq_def] at read
      dsimp only at read
      split at read
      · next body =>
        obtain ⟨⟨name, after⟩, named, read⟩ := bind_eq_ok_iff.1 read
        dsimp only at read
        have behindName := (named ▸ reads_readString : Reads body (.ok (name, after))).suffix.trans
          ((List.suffix_cons '"' body).trans within)
        split at read
        · next start colon =>
          obtain ⟨⟨value, last⟩, first, read⟩ := bind_eq_ok_iff.1 read
          dsimp only at read
          have begins := (skipSpace_suffix start).trans
            ((suffix_of_skipSpace colon).trans behindName)
          have here := values _ value last begins first
          have left := (first ▸ valueReads _).suffix.trans begins
          split at read
          · cases read
            exact List.forall_mem_singleton.2 here
          · next behind comma =>
            obtain ⟨⟨others, ended⟩, later, same⟩ := bind_eq_ok_iff.1 read
            cases same
            refine List.forall_mem_cons.2 ⟨here, members _ others ended ?_ later⟩
            exact (skipSpace_suffix behind).trans ((suffix_of_skipSpace comma).trans left)
          · cases read
        · cases read
      · cases read

/-- What is read of a text is resolved. -/
theorem resolved_of_read {text : String} {value : Value} (done : read text = .ok value) :
    Resolved text.toList value := by
  rw [read] at done
  split at done
  · next found document =>
    cases done
    rw [readDocument.eq_def] at document
    split at document
    · cases document
    · obtain ⟨⟨found, rest⟩, first, ended⟩ := bind_eq_ok_iff.1 document
      dsimp only at ended
      split at ended
      · cases ended
        exact (resolved_of_readValue text.toList _).1 _ _ rest (skipSpace_suffix _) first
      · cases ended
  · cases done
  · cases done

end DiceTray.Json
