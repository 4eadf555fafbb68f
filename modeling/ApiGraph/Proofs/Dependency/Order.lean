import ApiGraph.Proofs.Dependency.Exploration
import ApiGraph.Proofs.Registry
import ApiGraph.Proofs.Sorting
import Mathlib

namespace ApiGraph

/-! # The dependency order of a registry

The order and the cycles of the search, in terms of the types of the registry: where a type stands
in relation to what it refers to, and which types are reported together. -/

namespace TypeGraph

variable {registry : Registry}

theorem closed_ofRegistry (closed : registry.IsClosed) : (ofRegistry registry).Closed := by
  intro source target edge
  rw [refers_ofRegistry, mem_dependencies] at edge
  rcases edge with ⟨node, found, member⟩
  rw [mem_vertices_ofRegistry]
  exact closed node (List.mem_of_getElem? found) target member

theorem nodup_vertices_ofRegistry (registry : Registry) :
    (ofRegistry registry).vertices.Nodup := by
  have sorted := List.mergeSort_perm registry.ids fun left right =>
    decide (registry.nameOf left ≤ registry.nameOf right)
  exact sorted.nodup_iff.mpr List.nodup_range

theorem perm_vertices_ofRegistry (registry : Registry) :
    (ofRegistry registry).vertices.Perm registry.ids := List.mergeSort_perm _ _

/-- The traversal of the graph finds what a chain of references leads to. -/
theorem mem_reachable_singleton {source target : TypeId} (registered : target < registry.size) :
    target ∈ (ofRegistry registry).reachable [source] ↔
      (ofRegistry registry).Reaches source target := by
  rw [mem_reachable (rooted_ofRegistry registry), mem_vertices_ofRegistry]
  simp [registered]

theorem lt_size_of_mem_reachable {roots : List TypeId} {id : TypeId}
    (reached : id ∈ (ofRegistry registry).reachable roots) : id < registry.size := by
  rw [mem_reachable (rooted_ofRegistry registry), mem_vertices_ofRegistry] at reached
  exact reached.1

/-- A type that reaches another registered one is registered. -/
theorem mem_reachable_both_iff {left right : TypeId} :
    (left ∈ (ofRegistry registry).reachable [right] ∧
        right ∈ (ofRegistry registry).reachable [left]) ↔
      left < registry.size ∧ (ofRegistry registry).Mutual left right := by
  constructor
  · intro holds
    rcases holds with ⟨back, there⟩
    have leftRegistered := lt_size_of_mem_reachable back
    have rightRegistered := lt_size_of_mem_reachable there
    rw [mem_reachable_singleton leftRegistered] at back
    rw [mem_reachable_singleton rightRegistered] at there
    exact ⟨leftRegistered, there, back⟩
  · intro holds
    rcases holds with ⟨registered, there, back⟩
    have inside := (rooted_ofRegistry registry).stays
      ((mem_vertices_ofRegistry registry left).mpr registered) back
    have rightRegistered := (mem_vertices_ofRegistry registry right).mp inside.1
    rw [mem_reachable_singleton registered, mem_reachable_singleton rightRegistered]
    exact ⟨back, there⟩

end TypeGraph

namespace DependencyOrder

variable {dependencies : DependencyOrder} {id : TypeId}

theorem position?_of_mem (listed : id ∈ dependencies.order) :
    dependencies.position? id = some (dependencies.order.idxOf id) :=
  idxOf?_of_mem listed

/-- In an order without repetition the position of a type is its index. -/
theorem position?_eq_some_iff (nodup : dependencies.order.Nodup) (position : Nat) :
    dependencies.position? id = some position ↔ dependencies.order[position]? = some id := by
  constructor
  · intro found
    rcases List.idxOf?_eq_some_iff.mp found with ⟨inside, same, _⟩
    exact List.getElem?_eq_some_iff.mpr ⟨inside, same⟩
  · intro found
    rcases List.getElem?_eq_some_iff.mp found with ⟨inside, same⟩
    rw [position?_of_mem (List.mem_of_getElem? found), ← same, nodup.idxOf_getElem]

end DependencyOrder

namespace Registry

open TypeGraph

variable (registry : Registry)

/-- Two types that refer to each other, the first of them to itself as well, and a third type that
the second one needs. -/
def tangle : Registry where
  nodes := [
    { name := "A", shape := .object [⟨"self", none, .named 0, true⟩, ⟨"b", none, .named 1, true⟩] },
    { name := "B", shape := .object [⟨"a", none, .named 0, true⟩, ⟨"c", none, .named 2, false⟩] },
    { name := "C" }]
  bindings := [("A", 0), ("B", 1), ("C", 2)]

/-- Every type stands in the order once, and everything that a type refers to stands strictly before
it unless the two reach each other. The position of a type is its index in the order. -/
theorem dependencyOrder_topological (closed : registry.IsClosed) :
    registry.dependencyOrder.order.Perm registry.ids ∧
      (∀ source target, target ∈ registry.dependencies source →
        (∃ first second, registry.dependencyOrder.position? target = some first ∧
          registry.dependencyOrder.position? source = some second ∧ first < second) ∨
        (ofRegistry registry).Mutual target source) ∧
      ∀ id position, registry.dependencyOrder.position? id = some position ↔
        registry.dependencyOrder.order[position]? = some id := by
  rcases exists_emission (closed_ofRegistry closed) (nodup_vertices_ofRegistry registry) with
    ⟨groups, emission, order, _, perm⟩
  have flat : registry.dependencyOrder.order = groups.flatten := order
  have nodup : registry.dependencyOrder.order.Nodup :=
    perm.nodup_iff.mpr (nodup_vertices_ofRegistry registry)
  refine ⟨perm.trans (perm_vertices_ofRegistry registry), ?_,
    fun _ => DependencyOrder.position?_eq_some_iff nodup⟩
  intro source target reference
  have edge := (refers_ofRegistry registry source target).mpr reference
  have sourceListed : source ∈ registry.dependencyOrder.order :=
    perm.mem_iff.mpr (rooted_ofRegistry registry source target edge)
  have targetListed : target ∈ registry.dependencyOrder.order :=
    perm.mem_iff.mpr (closed_ofRegistry closed source target edge)
  rcases emission.before_or_mutual (flat ▸ nodup) (flat ▸ sourceListed) edge with before | both
  · left
    refine ⟨_, _, DependencyOrder.position?_of_mem targetListed,
      DependencyOrder.position?_of_mem sourceListed, ?_⟩
    rw [flat]
    exact before
  · exact .inr both

theorem dependencyOrder_topological_tangle :
    tangle.IsClosed ∧ tangle.dependencyOrder.order = [2, 0, 1] ∧
      tangle.dependencyOrder.order.Perm [0, 1, 2] ∧
      ((∃ first second, tangle.dependencyOrder.position? 2 = some first ∧
          tangle.dependencyOrder.position? 1 = some second ∧ first < second) ∨
        (ofRegistry tangle).Mutual 2 1) := by
  have closed : tangle.IsClosed := by
    unfold IsClosed
    decide
  have topological := dependencyOrder_topological tangle closed
  have dependencies : tangle.dependencies 1 = [0, 2] := by cbv
  have reference : 2 ∈ tangle.dependencies 1 := by simp [dependencies]
  exact ⟨closed, by cbv, topological.1, topological.2.1 1 2 reference⟩

/-- Types stand in one reported cycle exactly when they are different and reached from each other,
or when they are the same type and this has company in its group or refers to itself. The order is
made of the classes of types that are reached from each other, each of them once and one after the
other, and the cycles are those classes that are reported, in the same sequence. -/
theorem dependencyOrder_cycles (closed : registry.IsClosed) :
    (∀ left right,
      (∃ cycle ∈ registry.dependencyOrder.cycles, left ∈ cycle ∧ right ∈ cycle) ↔
        (left ≠ right ∧ left ∈ (ofRegistry registry).reachable [right] ∧
          right ∈ (ofRegistry registry).reachable [left]) ∨
        (left = right ∧
          ((∃ other, other ≠ left ∧ left ∈ (ofRegistry registry).reachable [other] ∧
              other ∈ (ofRegistry registry).reachable [left]) ∨
            left ∈ registry.dependencies left))) ∧
      registry.dependencyOrder.cycles.flatten.Nodup ∧
      ∃ classes : List (List TypeId),
        registry.dependencyOrder.order = classes.flatten ∧ classes.flatten.Nodup ∧
        (∀ id, id < registry.size → ∃ members ∈ classes, id ∈ members) ∧
        (∀ members ∈ classes, members ≠ [] ∧ ∀ member ∈ members, ∀ other, other ∈ members ↔
          member ∈ (ofRegistry registry).reachable [other] ∧
            other ∈ (ofRegistry registry).reachable [member]) ∧
        registry.dependencyOrder.cycles = classes.filter (ofRegistry registry).isCycle := by
  rcases exists_emission (closed_ofRegistry closed) (nodup_vertices_ofRegistry registry) with
    ⟨groups, emission, order, cycles, perm⟩
  have flat : registry.dependencyOrder.order = groups.flatten := order
  have reported : registry.dependencyOrder.cycles =
      groups.filter (ofRegistry registry).isCycle := cycles
  have emitted : ∀ id, id ∈ groups.flatten ↔ id < registry.size := fun id => by
    rw [← flat, ← mem_vertices_ofRegistry]
    exact perm.mem_iff
  have nodup : groups.flatten.Nodup :=
    flat ▸ perm.nodup_iff.mpr (nodup_vertices_ofRegistry registry)
  refine ⟨?_, ?_, groups, flat, nodup, ?_, ?_, reported⟩
  · intro left right
    rw [reported]
    by_cases registered : left < registry.size
    · have listed := (emitted left).mpr registered
      by_cases same : left = right
      · subst same
        have company : ∀ other, (left ∈ (ofRegistry registry).reachable [other] ∧
            other ∈ (ofRegistry registry).reachable [left]) ↔
              (ofRegistry registry).Mutual left other := fun other => by
          rw [mem_reachable_both_iff]
          simp [registered]
        simp only [and_self, emission.mem_cycle_iff nodup listed, refers_ofRegistry, company]
        simp
      · rw [emission.mem_same_cycle_iff nodup listed same, mem_reachable_both_iff]
        simp [registered, same]
    · constructor
      · intro holds
        rcases holds with ⟨cycle, member, inside, _⟩
        have listed := (Emission.cycles_sublist groups).subset
          (List.mem_flatten.mpr ⟨cycle, member, inside⟩)
        exact absurd ((emitted left).mp listed) registered
      · intro holds
        rcases holds with ⟨_, reached, _⟩ | ⟨_, ⟨other, _, reached, _⟩ | loop⟩
        · exact absurd (lt_size_of_mem_reachable reached) registered
        · exact absurd (lt_size_of_mem_reachable reached) registered
        · have root := rooted_ofRegistry registry left left
            ((refers_ofRegistry registry left left).mpr loop)
          exact absurd ((mem_vertices_ofRegistry registry left).mp root) registered
  · rw [reported]
    exact (Emission.cycles_sublist groups).nodup nodup
  · intro id registered
    exact List.mem_flatten.mp ((emitted id).mpr registered)
  · intro members member
    have isGroup := emission.isGroup_of_mem member
    refine ⟨isGroup.nonempty, fun id inside other => ?_⟩
    have registered := (emitted id).mp (List.mem_flatten.mpr ⟨members, member, inside⟩)
    rw [isGroup.mem_iff id inside other, mem_reachable_both_iff]
    simp [registered]

theorem dependencyOrder_cycles_tangle :
    tangle.IsClosed ∧ tangle.dependencyOrder.cycles = [[0, 1]] ∧
      0 ∈ (ofRegistry tangle).reachable [1] ∧ 1 ∈ (ofRegistry tangle).reachable [0] ∧
      tangle.dependencyOrder.cycles.flatten.Nodup := by
  have closed : tangle.IsClosed := by
    unfold IsClosed
    decide
  have cycles : tangle.dependencyOrder.cycles = [[0, 1]] := by cbv
  have reported := dependencyOrder_cycles tangle closed
  have together : ∃ cycle ∈ tangle.dependencyOrder.cycles, 0 ∈ cycle ∧ 1 ∈ cycle := by
    simp [cycles]
  rcases (reported.1 0 1).mp together with ⟨_, back, there⟩ | ⟨same, _⟩
  · exact ⟨closed, cycles, back, there, reported.2.1⟩
  · cases same

end Registry

end ApiGraph
