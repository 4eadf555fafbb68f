import ApiGraph.Proofs.Dependency.Groups

namespace ApiGraph

/-! What holds of a search while it runs, and what its two elementary changes do to it.

The types on the path from the first visited type to the current one are called active. Every open
type reaches an active one and every later open type is reached from every earlier one, so the open
types down to the current one are a whole group as soon as nothing among them refers further
back. -/

namespace Search

structure Invariant (graph : TypeGraph) (active : List TypeId) (search : Search) : Prop where
  placed : (search.unvisited ++ search.discovered).Perm graph.vertices
  settled : (search.stack ++ search.emitted.order).Perm search.discovered
  activeOpen : ∀ id ∈ active, id ∈ search.stack
  /-- What an open type that is not active refers to has been discovered. -/
  explored : ∀ source ∈ search.stack, source ∉ active → ∀ target, graph.Refers source target →
    target ∈ search.discovered
  ascending : search.stack.Pairwise fun later earlier => graph.Reaches earlier later
  anchored : ∀ id ∈ search.stack, ∃ anchor ∈ active, graph.Reaches id anchor
  emission : ∃ groups, graph.Emission groups ∧ search.emitted.order = groups.flatten ∧
    search.emitted.cycles = groups.filter graph.isCycle

/-- A later state of a search: nothing that was discovered, opened or emitted has been undone. -/
structure Extends (before after : Search) : Prop where
  discovered : before.discovered <+: after.discovered
  stack : before.stack <:+ after.stack
  order : before.emitted.order <+: after.emitted.order

theorem Extends.refl (search : Search) : search.Extends search :=
  ⟨List.prefix_rfl, List.suffix_rfl, List.prefix_rfl⟩

theorem Extends.trans {first second third : Search} (left : first.Extends second)
    (right : second.Extends third) : first.Extends third :=
  ⟨left.discovered.trans right.discovered, left.stack.trans right.stack,
    left.order.trans right.order⟩

namespace Invariant

variable {graph : TypeGraph} {active : List TypeId} {search : Search}

section Places

variable (invariant : Invariant graph active search)

include invariant

theorem nodup_placed (nodup : graph.vertices.Nodup) :
    (search.unvisited ++ search.discovered).Nodup := invariant.placed.nodup_iff.mpr nodup

theorem nodup_settled (nodup : graph.vertices.Nodup) :
    (search.stack ++ search.emitted.order).Nodup :=
  invariant.settled.nodup_iff.mpr (List.nodup_append.mp (invariant.nodup_placed nodup)).2.1

theorem mem_vertices_iff (id : TypeId) :
    id ∈ graph.vertices ↔ id ∈ search.unvisited ∨ id ∈ search.discovered := by
  rw [← invariant.placed.mem_iff, List.mem_append]

theorem mem_discovered_iff (id : TypeId) :
    id ∈ search.discovered ↔ id ∈ search.stack ∨ id ∈ search.emitted.order := by
  rw [← invariant.settled.mem_iff, List.mem_append]

theorem notMem_discovered (nodup : graph.vertices.Nodup) {id : TypeId}
    (fresh : id ∈ search.unvisited) : id ∉ search.discovered := fun known =>
  (List.nodup_append.mp (invariant.nodup_placed nodup)).2.2 id fresh id known rfl

theorem notMem_order (nodup : graph.vertices.Nodup) {id : TypeId} (isOpen : id ∈ search.stack) :
    id ∉ search.emitted.order := fun emitted =>
  (List.nodup_append.mp (invariant.nodup_settled nodup)).2.2 id isOpen id emitted rfl

theorem order_closed (source target : TypeId) (emitted : source ∈ search.emitted.order)
    (edge : graph.Refers source target) : target ∈ search.emitted.order := by
  rcases invariant.emission with ⟨groups, emission, order, _⟩
  rw [order] at emitted ⊢
  exact emission.closed source target emitted edge

end Places

/-- A search that has not begun. -/
theorem start (graph : TypeGraph) : Invariant graph [] { unvisited := graph.vertices } where
  placed := by simp
  settled := by simp
  activeOpen := by simp
  explored := by simp
  ascending := .nil
  anchored := by simp
  emission := ⟨[], .start, rfl, rfl⟩

end Invariant

/-! ## Ranks -/

section Ranks

variable {before after : Search} {id : TypeId}

theorem rank_lt_of_mem (known : id ∈ before.discovered) :
    before.rank id < before.discovered.length := List.idxOf_lt_length_of_mem known

theorem Extends.rank_eq (later : before.Extends after) (known : id ∈ before.discovered) :
    after.rank id = before.rank id := by
  rcases later.discovered with ⟨more, equal⟩
  rw [rank, ← equal, List.idxOf_append_of_mem known, rank]

theorem Extends.mem_of_rank_lt (later : before.Extends after)
    (early : after.rank id < before.discovered.length) : id ∈ before.discovered := by
  rcases later.discovered with ⟨more, equal⟩
  by_contra unknown
  rw [rank, ← equal, List.idxOf_append_of_notMem unknown] at early
  omega

/-- An open type that was discovered before is one that was open before. -/
theorem Extends.mem_stack_of_rank_lt {graph : TypeGraph} {active later : List TypeId}
    (nodup : graph.vertices.Nodup) (kept : before.Extends after)
    (first : Invariant graph active before) (second : Invariant graph later after)
    (isOpen : id ∈ after.stack) (early : after.rank id < before.discovered.length) :
    id ∈ before.stack := by
  have known := kept.mem_of_rank_lt early
  rcases (first.mem_discovered_iff id).mp known with wasOpen | emitted
  · exact wasOpen
  · exact absurd (kept.order.subset emitted) (second.notMem_order nodup isOpen)

end Ranks

/-! ## Discovering a type -/

theorem extends_discover (search : Search) (id : TypeId) : search.Extends (search.discover id) :=
  ⟨List.prefix_append _ _, List.suffix_cons _ _, List.prefix_rfl⟩

theorem Invariant.discover {graph : TypeGraph} {active : List TypeId} {search : Search}
    (invariant : Invariant graph active search) {id : TypeId} (fresh : id ∈ search.unvisited)
    (reached : ∀ anchor ∈ active, graph.Reaches anchor id) :
    Invariant graph (id :: active) (search.discover id) where
  placed := by
    have taken := (List.perm_cons_erase fresh).append_right search.discovered
    have moved : (search.unvisited.erase id ++ (search.discovered ++ [id])).Perm
        (id :: search.unvisited.erase id ++ search.discovered) := by
      rw [← List.append_assoc]
      exact List.perm_append_singleton _ _
    exact moved.trans (taken.symm.trans invariant.placed)
  settled := (invariant.settled.cons id).trans (List.perm_append_singleton _ _).symm
  activeOpen := by
    intro other member
    rcases List.mem_cons.mp member with equal | member
    · rw [equal]
      exact List.mem_cons_self
    · exact List.mem_cons_of_mem _ (invariant.activeOpen other member)
  explored := by
    intro source isOpen passive target edge
    rw [List.mem_cons, not_or] at passive
    have wasOpen := (List.mem_cons.mp isOpen).resolve_left passive.1
    exact List.mem_append_left _ (invariant.explored source wasOpen passive.2 target edge)
  ascending := by
    refine List.pairwise_cons.mpr ⟨fun earlier wasOpen => ?_, invariant.ascending⟩
    rcases invariant.anchored earlier wasOpen with ⟨anchor, member, path⟩
    exact path.trans (reached anchor member)
  anchored := by
    intro other isOpen
    rcases List.mem_cons.mp isOpen with equal | wasOpen
    · exact ⟨id, List.mem_cons_self, equal ▸ .refl⟩
    · rcases invariant.anchored other wasOpen with ⟨anchor, member, path⟩
      exact ⟨anchor, List.mem_cons_of_mem _ member, path⟩
  emission := invariant.emission

end Search

end ApiGraph
