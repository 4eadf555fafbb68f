import ApiGraph.Dependency.Order
import ApiGraph.Proofs.Dependency.Reachability
import Mathlib.Data.List.Flatten
import Mathlib.Data.List.Nodup
import Mathlib.Data.List.Perm.Subperm

namespace ApiGraph

/-! Groups of types that reach each other, and sequences of groups in which each one only refers to
itself and to those before it. What such a sequence says about the order of single types follows
here, without regard to the search that finds it. -/

namespace TypeGraph

variable {graph : TypeGraph}

/-- All types that reach each other and nothing else. -/
structure IsGroup (graph : TypeGraph) (group : List TypeId) : Prop where
  nonempty : group ≠ []
  mem_iff : ∀ member ∈ group, ∀ other, other ∈ group ↔ graph.Mutual member other

/-- A group is reported as a cycle when it has several members, or when one refers to itself. -/
def isCycle (graph : TypeGraph) (group : List TypeId) : Bool :=
  decide (1 < group.length) || group.any graph.hasLoop

/-- Groups that have been emitted one after the other. -/
inductive Emission (graph : TypeGraph) : List (List TypeId) → Prop where
  | start : Emission graph []
  | emit {groups : List (List TypeId)} {group : List TypeId} (earlier : Emission graph groups)
      (isGroup : graph.IsGroup group)
      (settled : ∀ source ∈ group, ∀ target, graph.Refers source target →
        target ∈ groups.flatten ∨ target ∈ group) :
      Emission graph (groups ++ [group])

/-- A path out of a set of types that refers to nothing outside stays inside. -/
theorem Reaches.stays {source target : TypeId} (path : graph.Reaches source target)
    (Inside : TypeId → Prop)
    (closed : ∀ source target, Inside source → graph.Refers source target → Inside target)
    (inside : Inside source) : Inside target := by
  induction path with
  | refl => exact inside
  | tail _ step induction => exact closed _ _ induction step

namespace Emission

variable {groups : List (List TypeId)}

theorem isGroup_of_mem (emission : graph.Emission groups) {group : List TypeId}
    (member : group ∈ groups) : graph.IsGroup group := by
  induction emission with
  | start => cases member
  | emit _ isGroup _ induction =>
      rcases List.mem_append.mp member with earlier | last
      · exact induction earlier
      · rw [List.mem_singleton.mp last]
        exact isGroup

/-- Emitted types refer to emitted types only. -/
theorem closed (emission : graph.Emission groups) (source target : TypeId)
    (emitted : source ∈ groups.flatten) (edge : graph.Refers source target) :
    target ∈ groups.flatten := by
  induction emission with
  | start => cases emitted
  | emit _ _ settled induction =>
      rw [List.flatten_append, List.flatten_singleton, List.mem_append] at emitted ⊢
      rcases emitted with earlier | last
      · exact .inl (induction earlier)
      · exact settled source last target edge

/-- A type that an emitted type refers to stands strictly before it, or else both belong to one
group. -/
theorem before_or_mutual (emission : graph.Emission groups) (nodup : groups.flatten.Nodup)
    {source target : TypeId} (emitted : source ∈ groups.flatten)
    (edge : graph.Refers source target) :
    groups.flatten.idxOf target < groups.flatten.idxOf source ∨ graph.Mutual target source := by
  induction emission with
  | start => cases emitted
  | @emit earlier group _ isGroup settled induction =>
      rw [List.flatten_append, List.flatten_singleton] at nodup emitted ⊢
      have apart := List.nodup_append.mp nodup
      rcases List.mem_append.mp emitted with inEarlier | inGroup
      · have targetEarlier := Emission.closed ‹_› source target inEarlier edge
        rw [List.idxOf_append_of_mem targetEarlier, List.idxOf_append_of_mem inEarlier]
        exact induction apart.1 inEarlier
      · rcases settled source inGroup target edge with targetEarlier | targetInGroup
        · left
          have sourceLater : source ∉ earlier.flatten := fun inEarlier =>
            apart.2.2 source inEarlier source inGroup rfl
          rw [List.idxOf_append_of_mem targetEarlier, List.idxOf_append_of_notMem sourceLater]
          exact Nat.lt_add_right _ (List.idxOf_lt_length_of_mem targetEarlier)
        · exact .inr ((isGroup.mem_iff target targetInGroup source).mp inGroup)

/-- Types that are emitted reach each other exactly when one group has both. -/
theorem mutual_iff (emission : graph.Emission groups) {left right : TypeId}
    (emitted : left ∈ groups.flatten) :
    graph.Mutual left right ↔ ∃ group ∈ groups, left ∈ group ∧ right ∈ group := by
  constructor
  · intro both
    rcases List.mem_flatten.mp emitted with ⟨group, member, inside⟩
    exact ⟨group, member, inside,
      ((emission.isGroup_of_mem member).mem_iff left inside right).mpr both⟩
  · intro holds
    rcases holds with ⟨group, member, leftInside, rightInside⟩
    exact ((emission.isGroup_of_mem member).mem_iff left leftInside right).mp rightInside

end Emission

/-! ## Cycles -/

theorem isCycle_iff {group : List TypeId} :
    graph.isCycle group ↔ 1 < group.length ∨ ∃ member ∈ group, graph.Refers member member := by
  simp [isCycle, hasLoop, Refers]

/-- A duplicate-free list has several members as soon as it has two different ones. -/
theorem one_lt_length_iff {group : List TypeId} (nodup : group.Nodup) {member : TypeId}
    (inside : member ∈ group) : 1 < group.length ↔ ∃ other ∈ group, other ≠ member := by
  constructor
  · intro several
    by_contra alone
    push Not at alone
    have single : group ⊆ [member] := fun other inside => by simp [alone other inside]
    have short := (nodup.subperm single).length_le
    simp only [List.length_singleton] at short
    omega
  · intro holds
    rcases holds with ⟨other, otherInside, different⟩
    have pair : [other, member] ⊆ group := by simp [otherInside, inside]
    have distinct : [other, member].Nodup := by simp [different]
    exact (distinct.subperm pair).length_le

namespace Emission

variable {groups : List (List TypeId)}

/-- A type stands in some cycle exactly when its group has another member or it refers to itself. -/
theorem mem_cycle_iff (emission : graph.Emission groups) (nodup : groups.flatten.Nodup)
    {id : TypeId} (emitted : id ∈ groups.flatten) :
    (∃ cycle ∈ groups.filter graph.isCycle, id ∈ cycle) ↔
      (∃ other, other ≠ id ∧ graph.Mutual id other) ∨ graph.Refers id id := by
  constructor
  · intro holds
    rcases holds with ⟨cycle, reported, inside⟩
    rcases List.mem_filter.mp reported with ⟨member, isCycle⟩
    have isGroup := emission.isGroup_of_mem member
    by_cases company : ∃ other ∈ cycle, other ≠ id
    · rcases company with ⟨other, otherInside, different⟩
      exact .inl ⟨other, different, (isGroup.mem_iff id inside other).mp otherInside⟩
    · right
      have alone : ¬ 1 < cycle.length := by
        rw [one_lt_length_iff ((List.nodup_flatten.mp nodup).1 cycle member) inside]
        exact company
      rcases (isCycle_iff.mp isCycle).resolve_left alone with ⟨looped, loopedInside, loop⟩
      have same : looped = id := by
        by_contra different
        exact company ⟨looped, loopedInside, different⟩
      exact same ▸ loop
  · intro reason
    rcases List.mem_flatten.mp emitted with ⟨group, member, inside⟩
    have isGroup := emission.isGroup_of_mem member
    refine ⟨group, List.mem_filter.mpr ⟨member, isCycle_iff.mpr ?_⟩, inside⟩
    rcases reason with ⟨other, different, both⟩ | loop
    · left
      rw [one_lt_length_iff ((List.nodup_flatten.mp nodup).1 group member) inside]
      exact ⟨other, (isGroup.mem_iff id inside other).mpr both, different⟩
    · exact .inr ⟨id, inside, loop⟩

/-- Two different types stand in one cycle exactly when they reach each other. -/
theorem mem_same_cycle_iff (emission : graph.Emission groups) (nodup : groups.flatten.Nodup)
    {left right : TypeId} (emitted : left ∈ groups.flatten) (different : left ≠ right) :
    (∃ cycle ∈ groups.filter graph.isCycle, left ∈ cycle ∧ right ∈ cycle) ↔
      graph.Mutual left right := by
  rw [emission.mutual_iff emitted]
  constructor
  · intro holds
    rcases holds with ⟨cycle, reported, inside⟩
    exact ⟨cycle, (List.mem_filter.mp reported).1, inside⟩
  · intro holds
    rcases holds with ⟨group, member, leftInside, rightInside⟩
    have several : 1 < group.length := by
      rw [one_lt_length_iff ((List.nodup_flatten.mp nodup).1 group member) leftInside]
      exact ⟨right, rightInside, different.symm⟩
    exact ⟨group, List.mem_filter.mpr ⟨member, isCycle_iff.mpr (.inl several)⟩, leftInside,
      rightInside⟩

/-- What is reported is part of what is emitted. -/
theorem cycles_sublist (groups : List (List TypeId)) :
    (groups.filter graph.isCycle).flatten.Sublist groups.flatten :=
  List.filter_sublist.flatten

end Emission

end TypeGraph

end ApiGraph
