import DiceTray.Proofs.Json.Strings
import DiceTray.Proofs.OrderedMap
import DiceTray.Proofs.Sequence
import DiceTray.Text.Utf8

/-!
# Documents that are read back

A document without numbers whose objects name no member twice is read back from its indented form.
The reader is bounded by the length of what it is given, and the proof carries that bound along:
what is written of a part is shorter than what is written of the whole.
-/

namespace DiceTray.Json

/-- Values without numbers, in whose objects no name occurs twice. -/
inductive Textual : Value → Prop
  | null : Textual .null
  | boolean (value : Bool) : Textual (.boolean value)
  | text (value : String) : Textual (.text value)
  | list {items : List Value} (each : ∀ item ∈ items, Textual item) : Textual (.list items)
  | object {members : List (String × Value)} (distinct : (members.map Prod.fst).Nodup)
      (each : ∀ member ∈ members, Textual member.2) : Textual (.object members)

/-- A character that begins a value is neither white space nor the end of an array or object. -/
def BeginsValue (c : Char) : Prop := isSpace c = false ∧ c ≠ ']' ∧ c ≠ '}' ∧ c ≠ '\uFEFF'

instance (c : Char) : Decidable (BeginsValue c) := inferInstanceAs (Decidable (_ ∧ _ ∧ _ ∧ _))

theorem exists_writeValue_eq_cons {value : Value} (textual : Textual value) (depth : Nat) :
    ∃ c rest, writeValue depth value = c :: rest ∧ BeginsValue c := by
  cases textual with
  | null => exact ⟨_, _, by rw [writeValue], by decide⟩
  | boolean value => cases value <;> exact ⟨_, _, by rw [writeValue], by decide⟩
  | text value => exact ⟨_, _, by rw [writeValue, writeString], by decide⟩
  | list each =>
    rw [writeValue]
    split
    · exact ⟨_, _, rfl, by decide⟩
    · exact ⟨_, _, rfl, by decide⟩
  | object distinct each =>
    rw [writeValue]
    split
    · exact ⟨_, _, rfl, by decide⟩
    · exact ⟨_, _, rfl, by decide⟩

theorem skipSpace_cons {c : Char} (rest : List Char) (solid : isSpace c = false) :
    skipSpace (c :: rest) = c :: rest := by
  rw [skipSpace, List.dropWhile_cons_of_neg (by simp [solid])]

/-- An indentation is skipped. -/
theorem skipSpace_lineBreak (depth : Nat) (cs : List Char) :
    skipSpace (lineBreak depth ++ cs) = skipSpace cs := by
  rw [skipSpace, List.dropWhile_append_of_pos]
  · rfl
  · intro c member
    rcases List.mem_cons.1 member with rfl | blank
    · decide
    · rw [List.eq_of_mem_replicate blank]
      decide

theorem skipSpace_comma (cs : List Char) : skipSpace (',' :: cs) = ',' :: cs :=
  skipSpace_cons cs (by decide)

/-- What a written value begins with is not skipped. -/
theorem skipSpace_writeValue {value : Value} (textual : Textual value) (depth : Nat)
    (rest : List Char) :
    skipSpace (writeValue depth value ++ rest) = writeValue depth value ++ rest := by
  obtain ⟨c, after, written, begins⟩ := exists_writeValue_eq_cons textual depth
  rw [written, List.cons_append, skipSpace_cons _ begins.1]

/-- A value is read back from its written form, whatever follows. -/
def ReadsBack (value : Value) : Prop :=
  ∀ (depth bound : Nat) (rest : List Char), (writeValue depth value).length < bound →
    readValue bound (writeValue depth value ++ rest) = .ok (value, rest)

theorem readsBack_text (value : String) : ReadsBack (.text value) := by
  intro depth bound rest enough
  obtain ⟨bound, rfl⟩ := Nat.exists_eq_succ_of_ne_zero (Nat.ne_zero_of_lt enough)
  simp only [writeValue, writeString, List.cons_append, List.append_assoc, List.nil_append]
  rw [readValue, readString_writeString]
  rfl

theorem readsBack_null : ReadsBack .null := by
  intro depth bound rest enough
  obtain ⟨bound, rfl⟩ := Nat.exists_eq_succ_of_ne_zero (Nat.ne_zero_of_lt enough)
  simp only [writeValue, List.cons_append, List.nil_append]
  rfl

theorem readsBack_boolean (value : Bool) : ReadsBack (.boolean value) := by
  intro depth bound rest enough
  obtain ⟨bound, rfl⟩ := Nat.exists_eq_succ_of_ne_zero (Nat.ne_zero_of_lt enough)
  cases value <;> simp only [writeValue, List.cons_append, List.nil_append] <;> rfl

/-- What is written of items begins with the first of them. -/
theorem exists_writeItems_eq_append (depth : Nat) (item : Value) (items : List Value) :
    ∃ after, writeItems depth (item :: items) = writeValue depth item ++ after := by
  cases items with
  | nil => exact ⟨[], by rw [writeItems, List.append_nil]⟩
  | cons next items => exact ⟨_, by rw [writeItems]⟩

theorem skipSpace_writeItems {item : Value} (textual : Textual item) (items : List Value)
    (depth : Nat) (rest : List Char) :
    skipSpace (writeItems depth (item :: items) ++ rest) =
      writeItems depth (item :: items) ++ rest := by
  obtain ⟨after, written⟩ := exists_writeItems_eq_append depth item items
  rw [written, List.append_assoc, skipSpace_writeValue textual]

/-- Items are read back up to the end of their array. -/
theorem readItems_writeItems {items : List Value} (present : items ≠ [])
    (textual : ∀ item ∈ items, Textual item) (each : ∀ item ∈ items, ReadsBack item)
    (depth outer bound : Nat) (rest : List Char)
    (enough : (writeItems depth items).length + 1 < bound) :
    readItems bound (writeItems depth items ++ (lineBreak outer ++ ']' :: rest)) =
      .ok (items, rest) := by
  induction items generalizing bound with
  | nil => exact absurd rfl present
  | cons item items inductionHypothesis =>
    obtain ⟨bound, rfl⟩ := Nat.exists_eq_succ_of_ne_zero (Nat.ne_zero_of_lt enough)
    have first := each item List.mem_cons_self
    cases items with
    | nil =>
      simp only [writeItems] at enough ⊢
      have closing : skipSpace (lineBreak outer ++ ']' :: rest) = ']' :: rest := by
        rw [skipSpace_lineBreak, skipSpace_cons _ (by decide)]
      rw [readItems, first depth bound _ (by omega), ok_bind]
      simp only [closing]
      rfl
    | cons next items =>
      simp only [writeItems, List.length_append, List.length_cons] at enough
      have later := inductionHypothesis (by simp)
        (fun other member => textual other (List.mem_cons_of_mem item member))
        (fun other member => each other (List.mem_cons_of_mem item member)) bound (by omega)
      have onward := skipSpace_writeItems (textual next (by simp)) items depth
        (lineBreak outer ++ ']' :: rest)
      simp only [writeItems, List.append_assoc, List.cons_append]
      rw [readItems, first depth bound _ (by omega), ok_bind]
      simp only [skipSpace_comma]
      rw [skipSpace_lineBreak, onward, later]
      rfl

theorem readsBack_list {items : List Value} (textual : ∀ item ∈ items, Textual item)
    (each : ∀ item ∈ items, ReadsBack item) : ReadsBack (.list items) := by
  intro depth bound rest enough
  obtain ⟨bound, rfl⟩ := Nat.exists_eq_succ_of_ne_zero (Nat.ne_zero_of_lt enough)
  cases items with
  | nil => simp only [writeValue, List.isEmpty_nil, if_true, List.cons_append, List.nil_append]; rfl
  | cons item items =>
    simp only [writeValue, List.isEmpty_cons, Bool.false_eq_true, if_false, List.length_cons,
      List.length_append] at enough
    have read := readItems_writeItems (by simp) textual each (depth + 1) depth bound rest
      (by omega)
    have onward := skipSpace_writeItems (textual item List.mem_cons_self) items (depth + 1)
      (lineBreak depth ++ ']' :: rest)
    obtain ⟨after, written⟩ := exists_writeItems_eq_append (depth + 1) item items
    obtain ⟨c, more, begun, begins⟩ :=
      exists_writeValue_eq_cons (textual item List.mem_cons_self) (depth + 1)
    simp only [writeValue, List.isEmpty_cons, Bool.false_eq_true, if_false, List.cons_append,
      List.append_assoc, List.nil_append]
    rw [readValue, skipSpace_lineBreak, onward]
    rw [written, begun] at read ⊢
    simp only [List.cons_append] at read ⊢
    split
    · next closing => exact absurd (List.cons.inj closing).1 begins.2.1
    · next body _ => rw [read]; rfl

/-- What is written of members begins with the quotation mark of the first name. -/
theorem exists_writeMembers_eq_cons (depth : Nat) (member : String × Value)
    (members : List (String × Value)) :
    ∃ after, writeMembers depth (member :: members) = '"' :: after := by
  obtain ⟨name, value⟩ := member
  cases members with
  | nil => exact ⟨_, by rw [writeMembers, writeString, List.cons_append]⟩
  | cons next members => exact ⟨_, by rw [writeMembers, writeString, List.cons_append]⟩

theorem skipSpace_writeMembers (depth : Nat) (member : String × Value)
    (members : List (String × Value)) (rest : List Char) :
    skipSpace (writeMembers depth (member :: members) ++ rest) =
      writeMembers depth (member :: members) ++ rest := by
  obtain ⟨after, written⟩ := exists_writeMembers_eq_cons depth member members
  rw [written, List.cons_append, skipSpace_cons _ (by decide)]

/-- The value of a member is found behind its name. -/
theorem readMembers_writeMember (name : String) {value : Value} (textual : Textual value)
    (back : ReadsBack value) (depth bound : Nat) (rest : List Char)
    (enough : (writeValue depth value).length < bound) :
    readMembers (bound + 1) (writeString name ++ (':' :: ' ' :: (writeValue depth value ++ rest))) =
      match skipSpace rest with
      | '}' :: after => .ok ([(name, value)], after)
      | ',' :: after => do
        let (members, after) ← readMembers bound (skipSpace after)
        return ((name, value) :: members, after)
      | rest => .error (.refused .expectingComma rest) := by
  have colon : ∀ cs, skipSpace (':' :: cs) = ':' :: cs := fun cs => skipSpace_cons cs (by decide)
  have blank : skipSpace (' ' :: (writeValue depth value ++ rest)) =
      writeValue depth value ++ rest :=
    (rfl : _ = skipSpace (writeValue depth value ++ rest)).trans
      (skipSpace_writeValue textual depth rest)
  simp only [writeString, List.cons_append, List.append_assoc, List.nil_append]
  rw [readMembers, readString_writeString, ok_bind]
  simp only [colon, blank]
  rw [back depth bound rest enough, ok_bind]
  rfl

/-- Members are read back up to the end of their object. -/
theorem readMembers_writeMembers {members : List (String × Value)} (present : members ≠ [])
    (textual : ∀ member ∈ members, Textual member.2)
    (each : ∀ member ∈ members, ReadsBack member.2) (depth outer bound : Nat) (rest : List Char)
    (enough : (writeMembers depth members).length + 1 < bound) :
    readMembers bound (writeMembers depth members ++ (lineBreak outer ++ '}' :: rest)) =
      .ok (members, rest) := by
  induction members generalizing bound with
  | nil => exact absurd rfl present
  | cons member members inductionHypothesis =>
    obtain ⟨bound, rfl⟩ := Nat.exists_eq_succ_of_ne_zero (Nat.ne_zero_of_lt enough)
    obtain ⟨name, value⟩ := member
    have first : ReadsBack value := each (name, value) List.mem_cons_self
    have shape : Textual value := textual (name, value) List.mem_cons_self
    cases members with
    | nil =>
      simp only [writeMembers, List.length_append, List.length_cons] at enough
      have closing : skipSpace (lineBreak outer ++ '}' :: rest) = '}' :: rest := by
        rw [skipSpace_lineBreak, skipSpace_cons _ (by decide)]
      simp only [writeMembers, List.append_assoc, List.cons_append]
      rw [readMembers_writeMember name shape first depth bound _ (by omega)]
      simp only [closing]
    | cons next members =>
      simp only [writeMembers, List.length_append, List.length_cons] at enough
      have later := inductionHypothesis (by simp)
        (fun other member => textual other (List.mem_cons_of_mem _ member))
        (fun other member => each other (List.mem_cons_of_mem _ member)) bound (by omega)
      have onward := skipSpace_writeMembers depth next members (lineBreak outer ++ '}' :: rest)
      simp only [writeMembers, List.append_assoc, List.cons_append]
      rw [readMembers_writeMember name shape first depth bound _ (by omega)]
      simp only [skipSpace_comma]
      rw [skipSpace_lineBreak, onward, later, ok_bind]
      rfl

theorem readsBack_object {members : List (String × Value)}
    (distinct : (members.map Prod.fst).Nodup)
    (textual : ∀ member ∈ members, Textual member.2)
    (each : ∀ member ∈ members, ReadsBack member.2) : ReadsBack (.object members) := by
  intro depth bound rest enough
  obtain ⟨bound, rfl⟩ := Nat.exists_eq_succ_of_ne_zero (Nat.ne_zero_of_lt enough)
  cases members with
  | nil => simp only [writeValue, List.isEmpty_nil, if_true, List.cons_append, List.nil_append]; rfl
  | cons member members =>
    simp only [writeValue, List.isEmpty_cons, Bool.false_eq_true, if_false, List.length_cons,
      List.length_append] at enough
    have read := readMembers_writeMembers (by simp) textual each (depth + 1) depth bound rest
      (by omega)
    have onward :=
      skipSpace_writeMembers (depth + 1) member members (lineBreak depth ++ '}' :: rest)
    obtain ⟨after, written⟩ := exists_writeMembers_eq_cons (depth + 1) member members
    simp only [writeValue, List.isEmpty_cons, Bool.false_eq_true, if_false, List.cons_append,
      List.append_assoc, List.nil_append]
    rw [readValue, skipSpace_lineBreak, onward]
    rw [written, List.cons_append] at read ⊢
    split
    · next closing => exact absurd (List.cons.inj closing).1 (by decide)
    · next body _ =>
      have kept := OrderedMap.entries_ofList distinct
      rw [read, ok_bind]
      simp only [kept]
      rfl

/-- Every such value is read back. -/
theorem Textual.readsBack {value : Value} (textual : Textual value) : ReadsBack value := by
  induction textual with
  | null => exact readsBack_null
  | boolean value => exact readsBack_boolean value
  | text value => exact readsBack_text value
  | list each inductionHypothesis => exact readsBack_list each inductionHypothesis
  | object distinct each inductionHypothesis =>
    exact readsBack_object distinct each inductionHypothesis

section CarriageReturns

theorem return_notMem_writeString (text : String) : '\r' ∉ writeString text := by
  intro member
  rcases List.mem_cons.1 member with quote | member
  · exact absurd quote (by decide)
  · rcases List.mem_append.1 member with inside | close
    · obtain ⟨c, _, escaped⟩ := List.mem_flatMap.1 inside
      exact return_notMem_escapeChar c escaped
    · exact absurd (List.mem_singleton.1 close) (by decide)

theorem return_notMem_lineBreak (depth : Nat) : '\r' ∉ lineBreak depth := by
  intro member
  rcases List.mem_cons.1 member with newline | blank
  · exact absurd newline (by decide)
  · exact absurd (List.eq_of_mem_replicate blank) (by decide)

theorem return_notMem_writeItems {items : List Value} {depth : Nat}
    (each : ∀ item ∈ items, '\r' ∉ writeValue depth item) : '\r' ∉ writeItems depth items := by
  induction items with
  | nil => simp [writeItems]
  | cons item items inductionHypothesis =>
    have first := each item List.mem_cons_self
    cases items with
    | nil => rwa [writeItems]
    | cons next items =>
      have later := inductionHypothesis fun other member =>
        each other (List.mem_cons_of_mem item member)
      have gap := return_notMem_lineBreak depth
      simp [writeItems, first, later, gap]

theorem return_notMem_writeMembers {members : List (String × Value)} {depth : Nat}
    (each : ∀ member ∈ members, '\r' ∉ writeValue depth member.2) :
    '\r' ∉ writeMembers depth members := by
  induction members with
  | nil => simp [writeMembers]
  | cons member members inductionHypothesis =>
    have first := each member List.mem_cons_self
    obtain ⟨name, value⟩ := member
    have named := return_notMem_writeString name
    cases members with
    | nil => simpa [writeMembers, named] using first
    | cons next members =>
      have later := inductionHypothesis fun other member =>
        each other (List.mem_cons_of_mem _ member)
      have gap := return_notMem_lineBreak depth
      simp_all [writeMembers]

/-- The written form of such a value holds no carriage return. -/
theorem Textual.return_notMem {value : Value} (textual : Textual value) :
    ∀ depth, '\r' ∉ writeValue depth value := by
  induction textual with
  | null => intro depth; simp [writeValue]
  | boolean value => intro depth; cases value <;> simp [writeValue]
  | text value => intro depth; rw [writeValue]; exact return_notMem_writeString value
  | list each inductionHypothesis =>
    intro depth
    have inside := return_notMem_writeItems fun item member =>
      inductionHypothesis item member (depth + 1)
    have gap := return_notMem_lineBreak
    rw [writeValue]
    split <;> simp [inside, gap]
  | object distinct each inductionHypothesis =>
    intro depth
    have inside := return_notMem_writeMembers fun member present =>
      inductionHypothesis member present (depth + 1)
    have gap := return_notMem_lineBreak
    rw [writeValue]
    split <;> simp [inside, gap]

/-- Without carriage returns no line end changes. -/
theorem unifyLines_eq_self : ∀ {cs : List Char}, '\r' ∉ cs → Text.unifyLines cs = cs
  | [], _ => rfl
  | [c], plain => by
    rw [Text.unifyLines, if_neg (by rintro rfl; exact plain List.mem_cons_self)]
  | c :: next :: rest, plain => by
    rw [Text.unifyLines, if_neg (by rintro rfl; exact plain List.mem_cons_self),
      unifyLines_eq_self fun later => plain (List.mem_cons_of_mem c later)]

end CarriageReturns

/-- A line with the written form of such a value is a document for it, also after line ends were
unified. -/
theorem Textual.read_write {value : Value} (textual : Textual value) :
    read (String.ofList (Text.unifyLines (value.write ++ "\n").toList)) = .ok value := by
  have characters : (value.write ++ "\n").toList = writeValue 0 value ++ ['\n'] := by
    rw [String.toList_append, Value.write, String.toList_ofList]
    rfl
  have plain : '\r' ∉ writeValue 0 value ++ ['\n'] := by
    have inside := textual.return_notMem 0
    simp [inside]
  obtain ⟨c, after, written, begins⟩ := exists_writeValue_eq_cons textual 0
  have whole := textual.readsBack 0 ((writeValue 0 value ++ ['\n']).length + 1) ['\n']
    (by rw [List.length_append]; omega)
  have onward := skipSpace_writeValue textual 0 ['\n']
  have document : readDocument (writeValue 0 value ++ ['\n']) = .ok value := by
    rw [readDocument.eq_def]
    split
    · next marked =>
      rw [written] at marked
      exact absurd (List.cons.inj marked).1 begins.2.2.2
    · rw [onward, whole, ok_bind]
      rfl
  rw [characters, unifyLines_eq_self plain, read, String.toList_ofList, document]

end DiceTray.Json
