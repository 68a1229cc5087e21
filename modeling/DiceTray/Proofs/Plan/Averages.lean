import DiceTray.Plan
import DiceTray.Proofs.OrderedMap
import DiceTray.Proofs.Sequence

/-!
# Rows of averages

The averages of a plan have one row for each text, in the order in which the texts are first
planned, with the average of what the text is read as. Where two plans have the same texts they have
the same rows, whatever arguments the texts come from.
-/

namespace DiceTray

/-- A row holds the average of its text. -/
def Averaged (row : String × Binary64) : Prop :=
  ∃ expression, Expression.parse row.1 = .ok expression ∧ expression.average = .ok row.2

namespace PlannedRoll

variable {rows found : OrderedMap String Binary64} {plan other : List PlannedRoll}

/-- Behind the rows that were there comes a row for each new text, where it is first planned. -/
theorem keys_of_averages (done : averages rows plan = .ok found) :
    found.keys = rows.keys ++ ((plan.map text).removeAll rows.keys).eraseDups := by
  induction plan generalizing rows with
  | nil =>
    cases done
    exact (List.append_nil _).symm
  | cons planned rest inductionHypothesis =>
    rw [averages, bind_eq_ok_iff] at done
    obtain ⟨average, -, done⟩ := done
    rw [inductionHypothesis done, OrderedMap.keys_alter, List.map_cons]
    by_cases known : planned.text ∈ rows.keys
    · rw [if_pos known, List.cons_removeAll, if_neg (by simpa using known)]
    · have behind : (rest.map text).removeAll (rows.keys ++ [planned.text]) =
          ((rest.map text).removeAll rows.keys).filter fun later => !later == planned.text := by
        simp [List.removeAll, List.filter_filter, Bool.and_comm, beq_eq_decide]
      rw [if_neg known, List.cons_removeAll, if_pos (by simpa using known), List.eraseDups_cons,
        behind, List.append_assoc, List.singleton_append]

/-- Every row holds the average of its text. -/
theorem averaged_of_averages
    (read : ∀ planned ∈ plan, Expression.parse planned.text = .ok planned.expression)
    (begun : ∀ row ∈ rows.entries, Averaged row) (done : averages rows plan = .ok found) :
    ∀ row ∈ found.entries, Averaged row := by
  induction plan generalizing rows with
  | nil =>
    cases done
    exact begun
  | cons planned rest inductionHypothesis =>
    obtain ⟨parsed, later⟩ := List.forall_mem_cons.1 read
    rw [averages, bind_eq_ok_iff] at done
    obtain ⟨average, computed, done⟩ := done
    refine inductionHypothesis later (fun row member => ?_) done
    obtain ⟨text, value⟩ := row
    rw [OrderedMap.mem_entries_iff, OrderedMap.get?_alter] at member
    split at member
    · next same =>
      subst same
      cases known : rows.get? planned.text with
      | none =>
        rw [known] at member
        cases member
        exact ⟨planned.expression, parsed, computed⟩
      | some earlier =>
        rw [known] at member
        cases member
        exact begun _ ((rows.mem_entries_iff _ _).2 known)
    · exact begun _ ((rows.mem_entries_iff _ _).2 member)

/-- The rows depend on the texts of a plan alone. -/
theorem averages_congr (same : plan.map text = other.map text)
    (read : ∀ planned ∈ plan, Expression.parse planned.text = .ok planned.expression)
    (readOther : ∀ planned ∈ other, Expression.parse planned.text = .ok planned.expression) :
    averages rows plan = averages rows other := by
  induction plan generalizing rows other with
  | nil =>
    obtain rfl := List.map_eq_nil_iff.1 same.symm
    rfl
  | cons planned rest inductionHypothesis =>
    cases other with
    | nil => cases same
    | cons first others =>
      obtain ⟨text, texts⟩ := List.cons.inj same
      obtain ⟨parsed, later⟩ := List.forall_mem_cons.1 read
      obtain ⟨parsedOther, laterOther⟩ := List.forall_mem_cons.1 readOther
      have expression : planned.expression = first.expression := by
        rw [text, parsedOther] at parsed
        exact (Except.ok.inj parsed).symm
      rw [averages, averages, expression, text]
      exact congrArg _ (funext fun _ => inductionHypothesis texts later laterOther)

end PlannedRoll

end DiceTray
