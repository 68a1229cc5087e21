import DiceTray.History
import DiceTray.Proofs.OrderedMap

/-!
# The order of the lines

The draws that become lines are those that have values. They stand by increasing number of sides,
and strictly so when no number of sides comes twice. None of the values is lost on the way.
-/

namespace DiceTray.History

variable {draws : Draws}

theorem mem_ordered {draw : Int × List Int} :
    draw ∈ ordered draws ↔ draw ∈ draws ∧ draw.2 ≠ [] := by
  rw [ordered, (List.mergeSort_perm _ _).mem_iff, List.mem_filter]
  simp

theorem nodup_ordered (distinct : (draws.map Prod.fst).Nodup) :
    ((ordered draws).map Prod.fst).Nodup := by
  have kept : ((draws.filter fun draw => !draw.2.isEmpty).map Prod.fst).Nodup :=
    distinct.sublist (List.filter_sublist.map _)
  exact ((List.mergeSort_perm _ _).map Prod.fst).nodup_iff.2 kept

theorem increasing_ordered (distinct : (draws.map Prod.fst).Nodup) :
    (ordered draws).Pairwise fun left right => left.1 < right.1 := by
  have sorted : (ordered draws).Pairwise fun left right => decide (left.1 ≤ right.1) = true := by
    apply List.pairwise_mergeSort
    · intro first second third below above
      simp only [decide_eq_true_eq] at below above ⊢
      omega
    · intro left right
      simp only [Bool.or_eq_true, decide_eq_true_eq]
      omega
  have apart : (ordered draws).Pairwise fun left right => left.1 ≠ right.1 :=
    List.pairwise_map.1 (nodup_ordered distinct)
  apply (sorted.and apart).imp
  rintro left right ⟨below, distinct⟩
  simp only [decide_eq_true_eq] at below
  omega

/-- Ordering draws loses none of their values. -/
theorem lookup_ordered (distinct : (draws.map Prod.fst).Nodup) (bound : Int) :
    ((ordered draws).lookup bound).getD [] = (draws.lookup bound).getD [] := by
  have distinct' := nodup_ordered distinct
  cases found : (ordered draws).lookup bound with
  | some values =>
    have member := (mem_ordered.1 ((lookup_eq_some_iff_mem distinct' bound values).1 found)).1
    rw [(lookup_eq_some_iff_mem distinct bound values).2 member]
  | none =>
    cases held : draws.lookup bound with
    | none => rfl
    | some values =>
      by_cases present : values = []
      · rw [present]
        rfl
      · have member :=
          mem_ordered.2 ⟨(lookup_eq_some_iff_mem distinct bound values).1 held, present⟩
        rw [(lookup_eq_some_iff_mem distinct' bound values).2 member] at found
        cases found

end DiceTray.History
