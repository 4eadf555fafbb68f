import ApiGraph.Proofs.Dependency.Exploration
import ApiGraph.Proofs.Dependency.PlainSearch
import ApiGraph.Proofs.Sorting
import Mathlib

namespace ApiGraph

/-! # The search and the plain search

Both come to the same types in the same order. A group is closed at the moment in which the plain
search is done with its first type, and holds the types that stayed open since, which are a part of
what was discovered, in that order. -/

namespace Search

/-- The two searches have come equally far: what is open and what was emitted stands in the order of
the plain search. -/
structure Follows (graph : TypeGraph) (search : Search) (plain : PlainSearch) : Prop where
  unvisited : plain.unvisited = search.unvisited
  discovered : plain.discovered = search.discovered
  stack : search.stack.reverse.Sublist plain.discovered
  groups : ∃ groups : List (List TypeId), search.emitted.order = groups.flatten ∧
    (∀ group ∈ groups, graph.IsGroup group ∧ group.Sublist plain.discovered) ∧
    (groups.map List.head?).Sublist (plain.finished.map some)

variable {graph : TypeGraph} {search : Search} {plain : PlainSearch} {id : TypeId}
  {active : List TypeId}

theorem Follows.start (graph : TypeGraph) :
    Follows graph { unvisited := graph.vertices } { unvisited := graph.vertices } where
  unvisited := rfl
  discovered := rfl
  stack := .slnil
  groups := ⟨[], rfl, by simp, .slnil⟩

theorem Follows.discover (follows : Follows graph search plain) (id : TypeId) :
    Follows graph (search.discover id) (plain.discover id) where
  unvisited := congrArg (List.erase · id) follows.unvisited
  discovered := congrArg (· ++ [id]) follows.discovered
  stack := by
    have grown := follows.stack.append (List.Sublist.refl [id])
    rwa [← List.reverse_cons] at grown
  groups := by
    rcases follows.groups with ⟨groups, order, sorted, finished⟩
    refine ⟨groups, order, ?_, finished⟩
    intro group member
    exact ⟨(sorted group member).1, (sorted group member).2.trans (List.sublist_append_left _ _)⟩

/-- A type that stays open is finished without further notice. -/
theorem Follows.finish (follows : Follows graph search plain) (id : TypeId) :
    Follows graph search (plain.finish id) where
  unvisited := follows.unvisited
  discovered := follows.discovered
  stack := follows.stack
  groups := by
    rcases follows.groups with ⟨groups, order, sorted, finished⟩
    refine ⟨groups, order, sorted, finished.trans ?_⟩
    exact (List.sublist_append_left _ _).map some

/-- The types of a group were discovered one after the other, its first one before all others. -/
theorem Follows.group_sublist {newer older : List TypeId}
    (closing : Closing graph active id newer older search) (follows : Follows graph search plain) :
    (id :: newer.reverse).Sublist plain.discovered := by
  have whole := follows.stack
  rw [closing.split, List.reverse_append, List.reverse_cons, List.append_assoc] at whole
  exact (List.sublist_append_right _ _).trans whole

/-- A group is emitted when its first type is finished. -/
theorem Follows.emit {newer older : List TypeId} (nodup : graph.vertices.Nodup)
    (closing : Closing graph active id newer older search) (follows : Follows graph search plain) :
    Follows graph (search.emit graph id) (plain.finish id) where
  unvisited := follows.unvisited
  discovered := follows.discovered
  stack := by
    have whole := follows.stack
    rw [closing.split, List.reverse_append, List.reverse_cons, List.append_assoc] at whole
    rw [closing.stack_emit nodup]
    exact (List.sublist_append_left _ _).trans whole
  groups := by
    rcases follows.groups with ⟨groups, order, sorted, finished⟩
    have opened : (id :: newer.reverse).Sublist plain.discovered := follows.group_sublist closing
    refine ⟨groups ++ [id :: newer.reverse], ?_, ?_, ?_⟩
    · rw [closing.order_emit nodup, order, List.flatten_append, List.flatten_singleton]
    · intro group member
      rcases List.mem_append.mp member with earlier | last
      · exact sorted group earlier
      · rw [List.mem_singleton.mp last]
        exact ⟨closing.isGroup nodup, opened⟩
    · rw [PlainSearch.finish, List.map_append, List.map_append]
      exact finished.append (List.Sublist.refl _)

/-! ## One step of both -/

theorem explored_edges (closed : graph.Closed) (nodup : graph.vertices.Nodup)
    (fresh : id ∈ search.unvisited) (invariant : Invariant graph active search)
    (reached : ∀ anchor ∈ active, graph.Reaches anchor id) :
    Explored graph active id (graph.edges id) search.discovered.length (search.discover id)
      (explore graph (graph.edges id) search.discovered.length (search.discover id)).value
      (explore graph (graph.edges id) search.discovered.length (search.discover id)).state := by
  apply explored_explore closed nodup
    (fun before _ active id fresh invariant reached =>
      visited_visit closed nodup before active id fresh invariant reached)
  · exact left_discover_lt fresh
  · exact invariant.discover fresh reached
  · exact reached
  · exact fun _ member => member
  · simp [Search.discover]

mutual

theorem follows_visit (closed : graph.Closed) (nodup : graph.vertices.Nodup) (search : Search)
    (plain : PlainSearch) (active : List TypeId) (id : TypeId) (fresh : id ∈ search.unvisited)
    (invariant : Invariant graph active search)
    (reached : ∀ anchor ∈ active, graph.Reaches anchor id)
    (follows : Follows graph search plain) :
    Follows graph (visit graph id search fresh).state (plain.visit graph id) := by
  have less : (search.discover id).left < search.left := left_discover_lt fresh
  have explored := explored_edges closed nodup fresh invariant reached
  have inner := follows_explore closed nodup (search.discover id) (plain.discover id) active id
    (graph.edges id) search.discovered.length (invariant.discover fresh reached) reached
    (fun _ member => member) (follows.discover id)
  rw [visit]
  simp only
  split
  next equal =>
    rcases explored.closing nodup invariant equal with ⟨newer, closing⟩
    exact inner.emit nodup closing
  next => exact inner.finish id
termination_by (search.left, 0)
decreasing_by exact Prod.Lex.left _ _ less

theorem follows_explore (closed : graph.Closed) (nodup : graph.vertices.Nodup) (search : Search)
    (plain : PlainSearch) (active : List TypeId) (id : TypeId) (targets : List TypeId)
    (lowest : Nat) (invariant : Invariant graph (id :: active) search)
    (reached : ∀ anchor ∈ active, graph.Reaches anchor id)
    (edges : ∀ target ∈ targets, graph.Refers id target) (follows : Follows graph search plain) :
    Follows graph (explore graph targets lowest search).state
      (PlainSearch.explore graph targets plain).state := by
  match targets with
  | [] =>
      rw [explore, PlainSearch.explore_nil]
      exact follows
  | target :: rest =>
      have restEdges : ∀ other ∈ rest, graph.Refers id other := fun other member =>
        edges other (List.mem_cons_of_mem _ member)
      rw [explore]
      split
      next fresh =>
        have reachedTarget := reaches_target reached (edges target List.mem_cons_self)
        have visited := visited_visit closed nodup search (id :: active) target fresh invariant
          reachedTarget
        have middle := follows_visit closed nodup search plain (id :: active) target fresh
          invariant reachedTarget follows
        have within := (visit graph target search fresh).within
        rw [PlainSearch.explore_fresh (follows.unvisited ▸ fresh)]
        exact follows_explore closed nodup _ _ active id rest _ visited.invariant reached restEdges
          middle
      next seen =>
        rw [PlainSearch.explore_visited (follows.unvisited ▸ seen)]
        split
        · exact follows_explore closed nodup _ _ active id rest _ invariant reached restEdges follows
        · exact follows_explore closed nodup _ _ active id rest _ invariant reached restEdges follows
termination_by (search.left, targets.length + 1)
decreasing_by
  · exact Prod.Lex.right _ (Nat.lt_succ_self _)
  · exact Prod.Lex.right _ (Nat.lt_succ_self _)
  · exact Prod.Lex.right _ (Nat.succ_pos _)
  · rcases Nat.lt_or_eq_of_le within with less | equal
    · exact Prod.Lex.left _ _ less
    · exact equal ▸ Prod.Lex.right _ (Nat.lt_succ_self _)

end

theorem follows_visitEach (closed : graph.Closed) (nodup : graph.vertices.Nodup)
    (ids : List TypeId) (search : Search) (plain : PlainSearch)
    (invariant : Invariant graph [] search) (follows : Follows graph search plain) :
    Follows graph (visitEach graph search ids) (PlainSearch.explore graph ids plain).state := by
  induction ids generalizing search plain with
  | nil =>
      rw [visitEach, PlainSearch.explore_nil]
      exact follows
  | cons id rest induction =>
      rw [visitEach]
      split
      next fresh =>
        have visited := visited_visit closed nodup search [] id fresh invariant (by simp)
        have middle := follows_visit closed nodup search plain [] id fresh invariant (by simp)
          follows
        rw [PlainSearch.explore_fresh (follows.unvisited ▸ fresh)]
        exact induction _ _ visited.invariant middle
      next seen =>
        rw [PlainSearch.explore_visited (follows.unvisited ▸ seen)]
        exact induction _ _ invariant follows

end Search

/-! ## The order in terms of the plain search -/

namespace TypeGraph

variable {graph : TypeGraph}

theorem plainSearch_spec (closed : graph.Closed) (nodup : graph.vertices.Nodup) :
    graph.plainSearch.discovered.Perm graph.vertices ∧
      ∃ groups : List (List TypeId), graph.dependencyOrder.order = groups.flatten ∧
        (∀ group ∈ groups, graph.IsGroup group ∧
          group.Sublist graph.plainSearch.discovered) ∧
        (groups.map List.head?).Sublist (graph.plainSearch.finished.map some) := by
  have final := Search.visitEach_spec closed nodup graph.vertices _ (fun _ member => member)
    (Search.Invariant.start graph)
  have follows := Search.follows_visitEach closed nodup graph.vertices _ _
    (Search.Invariant.start graph) (Search.Follows.start graph)
  refine ⟨?_, follows.groups⟩
  have placed := final.1.placed
  have none : (Search.visitEach graph { unvisited := graph.vertices } graph.vertices).unvisited =
      [] := by
    apply List.eq_nil_iff_forall_not_mem.mpr
    intro id fresh
    have listed := (final.1.mem_vertices_iff id).mpr (.inl fresh)
    exact final.1.notMem_discovered nodup fresh (final.2.2 id listed)
  rw [none, List.nil_append, ← follows.discovered] at placed
  exact placed

/-- The first types of groups are finished one after the other. -/
theorem pairwise_finished {groups : List (List TypeId)} {finished : List TypeId}
    (nodup : finished.Nodup) (sublist : (groups.map List.head?).Sublist (finished.map some)) :
    groups.Pairwise fun earlier later => ∀ first ∈ earlier.head?, ∀ other ∈ later.head?,
      finished.idxOf first < finished.idxOf other := by
  have ranks : (finished.map some).Pairwise fun earlier later => ∀ first ∈ earlier,
      ∀ other ∈ later, finished.idxOf first < finished.idxOf other := by
    rw [List.pairwise_map]
    apply (pairwise_idxOf_of_sublist nodup (List.Sublist.refl _)).imp
    intro left right before first isFirst other isOther
    cases isFirst
    cases isOther
    exact before
  exact List.pairwise_map.mp (ranks.sublist sublist)

/-- A group of types that reach nothing that reaches them is a single type. -/
theorem IsGroup.exists_single (acyclic : ∀ left right, graph.Mutual left right → left = right)
    {group : List TypeId} (isGroup : graph.IsGroup group) (nodup : group.Nodup) :
    ∃ id, group = [id] := by
  match group with
  | [] => exact absurd rfl isGroup.nonempty
  | [id] => exact ⟨id, rfl⟩
  | id :: other :: rest =>
      have both := (isGroup.mem_iff id (by simp) other).mp (by simp)
      have apart := (List.nodup_cons.mp nodup).1
      rw [acyclic id other both] at apart
      exact absurd List.mem_cons_self apart

theorem map_head?_of_singles {groups : List (List TypeId)}
    (singles : ∀ group ∈ groups, ∃ id, group = [id]) :
    groups.map List.head? = groups.flatten.map some := by
  induction groups with
  | nil => rfl
  | cons group rest induction =>
      rcases singles group List.mem_cons_self with ⟨id, rfl⟩
      rw [List.map_cons, List.flatten_cons, List.map_append,
        induction fun other member => singles other (List.mem_cons_of_mem _ member)]
      rfl

/-- Without cycles the order is the one in which the plain search is done with the types. -/
theorem order_eq_finished (closed : graph.Closed) (nodup : graph.vertices.Nodup)
    (acyclic : ∀ left right, graph.Mutual left right → left = right) :
    graph.dependencyOrder.order = graph.plainSearch.finished := by
  rcases plainSearch_spec closed nodup with ⟨discovered, groups, order, sorted, heads⟩
  rcases exists_emission closed nodup with ⟨_, _, _, _, perm⟩
  have distinct : groups.flatten.Nodup := order ▸ perm.nodup_iff.mpr nodup
  have singles : ∀ group ∈ groups, ∃ id, group = [id] := by
    intro group member
    apply (sorted group member).1.exists_single acyclic
    exact (List.nodup_flatten.mp distinct).1 group member
  rw [map_head?_of_singles singles, ← order] at heads
  have length : graph.dependencyOrder.order.length = graph.plainSearch.finished.length := by
    rw [perm.length_eq, ← discovered.length_eq, graph.plainSearch_finished.length_eq]
  have same := heads.eq_of_length (by rw [List.length_map, List.length_map, length])
  exact List.map_injective_iff.mpr (Option.some_injective _) same

end TypeGraph

end ApiGraph
