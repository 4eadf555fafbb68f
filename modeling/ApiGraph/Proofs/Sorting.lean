import Mathlib

namespace ApiGraph

/-! # Lists in the order of a key

Sorting never changes more than the order, and it may be undone where the result is known to be part
of a list that is in order already. Where values come up again, only the first of them may be kept. -/

variable {α κ : Type}

section Keys

variable [LE κ] [DecidableLE κ]

theorem pairwise_mergeSort_by (transitive : ∀ {first second third : κ},
      first ≤ second → second ≤ third → first ≤ third)
    (total : ∀ first second : κ, first ≤ second ∨ second ≤ first) (key : α → κ)
    (values : List α) :
    (values.mergeSort fun left right => decide (key left ≤ key right)).Pairwise
      fun left right => key left ≤ key right := by
  have sorted : (values.mergeSort fun left right => decide (key left ≤ key right)).Pairwise
      fun left right => decide (key left ≤ key right) = true := by
    apply List.pairwise_mergeSort
    · intro _ _ _
      simpa using transitive
    · intro _ _
      simpa using total _ _
  exact sorted.imp of_decide_eq_true

end Keys

/-! ## Places in a list -/

section Places

variable [BEq α] [LawfulBEq α] {order values sorted : List α} {value : α}

theorem idxOf?_of_mem (member : value ∈ order) :
    order.idxOf? value = some (order.idxOf value) := by
  cases found : order.idxOf? value with
  | none => exact absurd member (List.idxOf?_eq_none_iff.mp found)
  | some index => simp [List.idxOf_eq_getD_idxOf?, found]

/-- Members of a part of a list have their places in the order of the list. -/
theorem pairwise_idxOf_of_sublist (nodup : order.Nodup) (sublist : sorted.Sublist order) :
    sorted.Pairwise fun left right => order.idxOf left < order.idxOf right := by
  apply List.Pairwise.sublist sublist
  rw [List.pairwise_iff_getElem]
  intro first second firstInside secondInside before
  rw [nodup.idxOf_getElem, nodup.idxOf_getElem]
  exact before

/-- Sorted by their places in a list, its members stand as they do there. -/
theorem mergeSort_idxOf_eq (nodup : order.Nodup) (sublist : sorted.Sublist order)
    (perm : values.Perm sorted) :
    (values.mergeSort fun left right => decide (order.idxOf left ≤ order.idxOf right)) =
      sorted := by
  have result := (List.mergeSort_perm values fun left right =>
    decide (order.idxOf left ≤ order.idxOf right)).trans perm
  have ascending : sorted.Pairwise fun left right => order.idxOf left ≤ order.idxOf right :=
    (pairwise_idxOf_of_sublist nodup sublist).imp Nat.le_of_lt
  apply List.Perm.eq_of_pairwise _ (pairwise_mergeSort_by Nat.le_trans Nat.le_total _ _) ascending
    result
  intro left right listed _ before after
  have member := sublist.subset (result.mem_iff.mp listed)
  exact (List.idxOf_inj member).mp (Nat.le_antisymm before after)

end Places

/-! ## Values that come up again -/

section Repetitions

variable [BEq α] [LawfulBEq α]

theorem nodup_eraseDups (values : List α) : values.eraseDups.Nodup := by
  match values with
  | [] => exact List.nodup_nil
  | value :: rest =>
      rw [List.eraseDups_cons]
      refine List.nodup_cons.mpr ⟨?_, nodup_eraseDups _⟩
      rw [List.mem_eraseDups, List.mem_filter]
      simp
termination_by values.length
decreasing_by exact Nat.lt_succ_of_le (List.length_filter_le _ _)

variable {values : List α} {value : α}

theorem eraseDups_concat_of_mem (member : value ∈ values) :
    (values ++ [value]).eraseDups = values.eraseDups := by
  simp [List.eraseDups_append, List.removeAll, member]

theorem eraseDups_concat_of_notMem (absent : value ∉ values) :
    (values ++ [value]).eraseDups = values.eraseDups ++ [value] := by
  simp [List.eraseDups_append, List.removeAll, absent, List.eraseDups_cons]

end Repetitions

end ApiGraph
