import ApiGraph.Proofs.Renumbering.Registry
import Mathlib

namespace ApiGraph

/-! # The search of a graph with other numbers

The search compares types for equality and follows edges in their order. So it takes the same steps
in a graph with other numbers, and emits the same types under these. -/

def DependencyOrder.renumber (renumbering : TypeId → TypeId) (dependencies : DependencyOrder) :
    DependencyOrder where
  order := dependencies.order.map renumbering
  cycles := dependencies.cycles.map (List.map renumbering)

def Search.renumber (renumbering : TypeId → TypeId) (search : Search) : Search where
  unvisited := search.unvisited.map renumbering
  discovered := search.discovered.map renumbering
  stack := search.stack.map renumbering
  emitted := search.emitted.renumber renumbering

section Lists

variable (renumbering : Equiv.Perm TypeId) (ids : List TypeId) (id : TypeId)

theorem idxOf_map_renumbering : (ids.map renumbering).idxOf (renumbering id) = ids.idxOf id := by
  induction ids with
  | nil => rfl
  | cons first rest induction =>
      rw [List.map_cons, List.idxOf_cons, List.idxOf_cons, induction]
      by_cases equal : first = id
      · simp [equal]
      · have different : renumbering first ≠ renumbering id := fun same =>
          equal (renumbering.injective same)
        rw [beq_false_of_ne equal, beq_false_of_ne different]

theorem contains_map_renumbering :
    (ids.map renumbering).contains (renumbering id) = ids.contains id := by
  rw [List.contains_eq_mem, List.contains_eq_mem]
  simp

theorem erase_map_renumbering :
    (ids.map renumbering).erase (renumbering id) = (ids.erase id).map renumbering :=
  (List.map_erase renumbering.injective ids).symm

end Lists

namespace Search

variable {before after : TypeGraph} {renumbering : Equiv.Perm TypeId} {search : Search}
  {id : TypeId}

theorem discover_renumber :
    (search.renumber renumbering).discover (renumbering id) =
      (search.discover id).renumber renumbering := by
  simp only [discover, renumber, erase_map_renumbering, List.map_append, List.map_cons,
    List.map_nil]

theorem rank_renumber : (search.renumber renumbering).rank (renumbering id) = search.rank id :=
  idxOf_map_renumbering renumbering search.discovered id

theorem groupOf_renumber :
    (search.renumber renumbering).groupOf (renumbering id) =
      (search.groupOf id).map renumbering := by
  have same : ((· != renumbering id) ∘ renumbering) = (· != id) := by
    funext other
    simp [bne]
  simp only [groupOf, renumber, List.takeWhile_map, same, List.map_cons, List.map_reverse]

theorem emit_renumber (renumbers : before.Renumbers renumbering after) :
    (search.renumber renumbering).emit after (renumbering id) =
      (search.emit before id).renumber renumbering := by
  have same : ((· != renumbering id) ∘ renumbering) = (· != id) := by
    funext other
    simp [bne]
  have loop : after.hasLoop (renumbering id) = before.hasLoop id := by
    rw [TypeGraph.hasLoop, TypeGraph.hasLoop, renumbers.edges, contains_map_renumbering]
  simp only [emit, groupOf_renumber, loop, List.length_map]
  simp only [renumber, DependencyOrder.renumber, List.dropWhile_map, same, List.map_tail,
    List.map_append]
  split <;> simp

mutual

theorem visit_renumber (renumbers : before.Renumbers renumbering after) (id : TypeId)
    (search moved : Search) (same : moved = search.renumber renumbering)
    (fresh : id ∈ search.unvisited) (still : renumbering id ∈ moved.unvisited) :
    (visit after (renumbering id) moved still).value = (visit before id search fresh).value ∧
      (visit after (renumbering id) moved still).state =
        (visit before id search fresh).state.renumber renumbering := by
  have less : (search.discover id).left < search.left := left_discover_lt fresh
  have count : moved.discovered.length = search.discovered.length := by
    rw [same]
    exact List.length_map _
  have explored := explore_renumber renumbers (before.edges id) search.discovered.length
    (search.discover id) (moved.discover (renumbering id)) (same ▸ discover_renumber)
  rw [visit, visit]
  simp only [renumbers.edges, count, explored.1, explored.2, true_and]
  split
  · exact emit_renumber renumbers
  · rfl
termination_by (search.left, 0)
decreasing_by exact Prod.Lex.left _ _ less

theorem explore_renumber (renumbers : before.Renumbers renumbering after) (targets : List TypeId)
    (lowest : Nat) (search moved : Search) (same : moved = search.renumber renumbering) :
    (explore after (targets.map renumbering) lowest moved).value =
        (explore before targets lowest search).value ∧
      (explore after (targets.map renumbering) lowest moved).state =
        (explore before targets lowest search).state.renumber renumbering := by
  match targets with
  | [] =>
      rw [List.map_nil, explore, explore]
      exact ⟨rfl, same⟩
  | target :: rest =>
      have isOpen : moved.stack.contains (renumbering target) = search.stack.contains target := by
        rw [same]
        exact contains_map_renumbering _ _ _
      have rank : moved.rank (renumbering target) = search.rank target := by
        rw [same]
        exact rank_renumber
      rw [List.map_cons, explore, explore]
      by_cases fresh : target ∈ search.unvisited
      · have still : renumbering target ∈ moved.unvisited := by
          rw [same]
          exact List.mem_map_of_mem fresh
        have visited := visit_renumber renumbers target search moved same fresh still
        have within := (visit before target search fresh).within
        have explored := explore_renumber renumbers rest
          (min lowest (visit before target search fresh).value)
          (visit before target search fresh).state
          (visit after (renumbering target) moved still).state visited.2
        rw [dif_pos fresh, dif_pos still]
        simp only [Step.bind]
        rw [visited.1]
        exact explored
      · have gone : renumbering target ∉ moved.unvisited := by
          rw [same]
          intro member
          exact fresh ((List.mem_map_of_injective renumbering.injective).mp member)
        rw [dif_neg fresh, dif_neg gone, isOpen, rank]
        split
        · exact explore_renumber renumbers rest _ search moved same
        · exact explore_renumber renumbers rest _ search moved same
termination_by (search.left, targets.length + 1)
decreasing_by
  · exact Prod.Lex.right _ (Nat.succ_pos _)
  · rcases Nat.lt_or_eq_of_le within with less | equal
    · exact Prod.Lex.left _ _ less
    · exact equal ▸ Prod.Lex.right _ (Nat.lt_succ_self _)
  · exact Prod.Lex.right _ (Nat.lt_succ_self _)
  · exact Prod.Lex.right _ (Nat.lt_succ_self _)

end

theorem visitEach_renumber (renumbers : before.Renumbers renumbering after) (search : Search)
    (ids : List TypeId) :
    visitEach after (search.renumber renumbering) (ids.map renumbering) =
      (visitEach before search ids).renumber renumbering := by
  induction ids generalizing search with
  | nil => rfl
  | cons id rest induction =>
      rw [List.map_cons, visitEach, visitEach]
      by_cases fresh : id ∈ search.unvisited
      · have still : renumbering id ∈ (search.renumber renumbering).unvisited :=
          List.mem_map_of_mem fresh
        have visited := visit_renumber renumbers id search _ rfl fresh still
        rw [dif_pos fresh, dif_pos still, visited.2]
        exact induction _
      · have gone : renumbering id ∉ (search.renumber renumbering).unvisited := by
          intro member
          exact fresh ((List.mem_map_of_injective renumbering.injective).mp member)
        rw [dif_neg fresh, dif_neg gone]
        exact induction _

end Search

theorem TypeGraph.Renumbers.dependencyOrder {before after : TypeGraph}
    {renumbering : Equiv.Perm TypeId} (renumbers : before.Renumbers renumbering after) :
    after.dependencyOrder = before.dependencyOrder.renumber renumbering := by
  have search := Search.visitEach_renumber renumbers { unvisited := before.vertices }
    before.vertices
  have start : ({ unvisited := before.vertices } : Search).renumber renumbering =
      { unvisited := after.vertices } := by
    rw [renumbers.vertices]
    rfl
  rw [start, ← renumbers.vertices] at search
  exact congrArg Search.emitted search

end ApiGraph
