import ApiGraph.Proofs.Dependency.Closing

namespace ApiGraph

/-! What `visit` and `explore` do to a search that satisfies the invariant.

The rank that a visit gives is a lower bound for all references back from the types that it leaves
open (`crossing`), and where it is lower than the rank of the visited type it is the rank of an open
type that is reached (`witness`). The first says that a closed group is large enough, the second
that a type which stays open reaches an active one. -/

namespace Search

structure Visited (graph : TypeGraph) (active : List TypeId) (id : TypeId) (before : Search)
    (lowest : Nat) (after : Search) : Prop where
  kept : before.Extends after
  invariant : Invariant graph active after
  discovered : id ∈ after.discovered
  crossing : ∀ source ∈ after.stack, source ∉ before.stack → ∀ target ∈ before.stack,
    graph.Refers source target → lowest ≤ before.rank target
  witness : lowest < before.discovered.length →
    ∃ met ∈ after.stack, after.rank met = lowest ∧ graph.Reaches id met

structure Explored (graph : TypeGraph) (active : List TypeId) (id : TypeId)
    (targets : List TypeId) (lowest : Nat) (before : Search) (met : Nat) (after : Search) :
    Prop where
  kept : before.Extends after
  invariant : Invariant graph (id :: active) after
  discovered : ∀ target ∈ targets, target ∈ after.discovered
  met_le : met ≤ lowest
  direct : ∀ target ∈ targets, target ∈ before.stack → met ≤ before.rank target
  crossing : ∀ source ∈ after.stack, source ∉ before.stack → ∀ target ∈ before.stack,
    graph.Refers source target → met ≤ before.rank target
  witness : met < lowest → ∃ found ∈ after.stack, after.rank found = met ∧ graph.Reaches id found

variable {graph : TypeGraph} {active : List TypeId} {id : TypeId}

/-- What a type refers to is reached from all active types, that type among them. -/
theorem reaches_target {target : TypeId} (reached : ∀ anchor ∈ active, graph.Reaches anchor id)
    (edge : graph.Refers id target) : ∀ anchor ∈ id :: active, graph.Reaches anchor target := by
  intro anchor member
  rcases List.mem_cons.mp member with equal | member
  · exact equal ▸ .single edge
  · exact (reached anchor member).tail edge

/-! ## Exploring what a type refers to -/

section Explore

variable {target : TypeId} {rest : List TypeId} {lowest met value : Nat}
variable {before middle after : Search}

theorem Explored.nil (invariant : Invariant graph (id :: active) before) :
    Explored graph active id [] lowest before lowest before where
  kept := .refl before
  invariant := invariant
  discovered := by simp
  met_le := Nat.le_refl _
  direct := by simp
  crossing := fun _ isOpen isNew => absurd isOpen isNew
  witness := fun less => absurd less (Nat.lt_irrefl _)

/-- Where nothing lower comes up later, the rank that is met is that of the target. -/
theorem Explored.lower_or_eq
    (explored : Explored graph active id rest (min lowest value) before met after)
    (less : met < lowest) : met < min lowest value ∨ met = value := by
  have upper := explored.met_le
  omega

/-- The target has not been visited: it is visited now. -/
theorem Explored.cons_fresh (nodup : graph.vertices.Nodup)
    (invariant : Invariant graph (id :: active) before) (fresh : target ∈ before.unvisited)
    (edge : graph.Refers id target) (bound : lowest ≤ before.discovered.length)
    (visited : Visited graph (id :: active) target before value middle)
    (explored : Explored graph active id rest (min lowest value) middle met after) :
    Explored graph active id (target :: rest) lowest before met after where
  kept := visited.kept.trans explored.kept
  invariant := explored.invariant
  discovered := List.forall_mem_cons.mpr
    ⟨explored.kept.discovered.subset visited.discovered, explored.discovered⟩
  met_le := Nat.le_trans explored.met_le (Nat.min_le_left _ _)
  direct := by
    intro other member isOpen
    have known : other ∈ before.discovered :=
      (invariant.mem_discovered_iff other).mpr (.inl isOpen)
    rcases List.mem_cons.mp member with equal | member
    · exact absurd known (equal ▸ invariant.notMem_discovered nodup fresh)
    · rw [← visited.kept.rank_eq known]
      exact explored.direct other member (visited.kept.stack.subset isOpen)
  crossing := by
    intro source isOpen isNew other wasOpen reference
    have known : other ∈ before.discovered :=
      (invariant.mem_discovered_iff other).mpr (.inl wasOpen)
    by_cases openBetween : source ∈ middle.stack
    · have low := visited.crossing source openBetween isNew other wasOpen reference
      exact Nat.le_trans explored.met_le (Nat.le_trans (Nat.min_le_right _ _) low)
    · rw [← visited.kept.rank_eq known]
      exact explored.crossing source isOpen openBetween other
        (visited.kept.stack.subset wasOpen) reference
  witness := by
    intro less
    rcases explored.lower_or_eq less with lower | same
    · exact explored.witness lower
    · rcases visited.witness (by omega) with ⟨found, isOpen, rank, path⟩
      have known : found ∈ middle.discovered :=
        (visited.invariant.mem_discovered_iff found).mpr (.inl isOpen)
      refine ⟨found, explored.kept.stack.subset isOpen, ?_, path.head edge⟩
      rw [explored.kept.rank_eq known, rank, same]

/-- The target is open. -/
theorem Explored.cons_open (invariant : Invariant graph (id :: active) before)
    (isOpen : target ∈ before.stack) (edge : graph.Refers id target)
    (explored : Explored graph active id rest (min lowest (before.rank target)) before met after) :
    Explored graph active id (target :: rest) lowest before met after where
  kept := explored.kept
  invariant := explored.invariant
  discovered := by
    have known := (invariant.mem_discovered_iff target).mpr (.inl isOpen)
    exact List.forall_mem_cons.mpr
      ⟨explored.kept.discovered.subset known, explored.discovered⟩
  met_le := Nat.le_trans explored.met_le (Nat.min_le_left _ _)
  direct := List.forall_mem_cons.mpr
    ⟨fun _ => Nat.le_trans explored.met_le (Nat.min_le_right _ _), explored.direct⟩
  crossing := explored.crossing
  witness := by
    intro less
    rcases explored.lower_or_eq less with lower | same
    · exact explored.witness lower
    · have known := (invariant.mem_discovered_iff target).mpr (.inl isOpen)
      refine ⟨target, explored.kept.stack.subset isOpen, ?_, .single edge⟩
      rw [explored.kept.rank_eq known, same]

/-- The group of the target has been emitted. -/
theorem Explored.cons_emitted (known : target ∈ before.discovered)
    (closed : target ∉ before.stack)
    (explored : Explored graph active id rest lowest before met after) :
    Explored graph active id (target :: rest) lowest before met after where
  kept := explored.kept
  invariant := explored.invariant
  discovered := List.forall_mem_cons.mpr
    ⟨explored.kept.discovered.subset known, explored.discovered⟩
  met_le := explored.met_le
  direct := List.forall_mem_cons.mpr ⟨fun isOpen => absurd isOpen closed, explored.direct⟩
  crossing := explored.crossing
  witness := explored.witness

end Explore

/-! ## Visiting a type

After everything that a type refers to has been explored, the type either stays open, because an
open type before it was met, or its group is closed. -/

section Visit

variable {met : Nat} {before after : Search}

section

variable (explored : Explored graph active id (graph.edges id) before.discovered.length
  (before.discover id) met after)

include explored

theorem Explored.kept_discover : before.Extends after :=
  (extends_discover before id).trans explored.kept

theorem Explored.mem_discovered : id ∈ after.discovered :=
  explored.kept.discovered.subset (List.mem_append_right _ (List.mem_singleton.mpr rfl))

theorem Explored.crossing_discover (invariant : Invariant graph active before)
    (source : TypeId) (isOpen : source ∈ after.stack) (isNew : source ∉ before.stack)
    (target : TypeId) (wasOpen : target ∈ before.stack) (edge : graph.Refers source target) :
    met ≤ before.rank target := by
  have known := (invariant.mem_discovered_iff target).mpr (.inl wasOpen)
  have stillOpen : target ∈ (before.discover id).stack := List.mem_cons_of_mem _ wasOpen
  rw [← (extends_discover before id).rank_eq known]
  by_cases same : source = id
  · exact explored.direct target (same ▸ edge) stillOpen
  · refine explored.crossing source isOpen ?_ target stillOpen edge
    exact fun member => (List.mem_cons.mp member).elim same isNew

end

theorem Visited.of_met_lt (nodup : graph.vertices.Nodup) (invariant : Invariant graph active before)
    (explored : Explored graph active id (graph.edges id) before.discovered.length
      (before.discover id) met after)
    (less : met < before.discovered.length) : Visited graph active id before met after := by
  have kept := explored.kept_discover
  rcases explored.witness less with ⟨found, isOpen, rank, path⟩
  have anchoredHere : ∃ anchor ∈ active, graph.Reaches id anchor := by
    have wasOpen := kept.mem_stack_of_rank_lt nodup invariant explored.invariant isOpen
      (rank ▸ less)
    rcases invariant.anchored found wasOpen with ⟨anchor, member, further⟩
    exact ⟨anchor, member, path.trans further⟩
  exact {
    kept := kept
    invariant := {
      placed := explored.invariant.placed
      settled := explored.invariant.settled
      activeOpen := fun other member =>
        explored.invariant.activeOpen other (List.mem_cons_of_mem _ member)
      explored := by
        intro source sourceOpen passive target edge
        by_cases same : source = id
        · exact explored.discovered target (same ▸ edge)
        · refine explored.invariant.explored source sourceOpen ?_ target edge
          exact fun member => (List.mem_cons.mp member).elim same passive
      ascending := explored.invariant.ascending
      anchored := by
        intro other otherOpen
        rcases explored.invariant.anchored other otherOpen with ⟨anchor, member, path⟩
        rcases List.mem_cons.mp member with equal | member
        · rcases anchoredHere with ⟨further, member, rest⟩
          exact ⟨further, member, path.trans (equal ▸ rest)⟩
        · exact ⟨anchor, member, path⟩
      emission := explored.invariant.emission }
    discovered := explored.mem_discovered
    crossing := explored.crossing_discover invariant
    witness := fun _ => ⟨found, isOpen, rank, path⟩ }

/-- A type that has met nothing before itself closes its group. -/
theorem Explored.closing (nodup : graph.vertices.Nodup) (invariant : Invariant graph active before)
    (explored : Explored graph active id (graph.edges id) before.discovered.length
      (before.discover id) met after)
    (equal : met = before.discovered.length) :
    ∃ newer, Closing graph active id newer before.stack after := by
  rcases explored.kept.stack with ⟨newer, split⟩
  have stackNodup := (List.nodup_append.mp (explored.invariant.nodup_settled nodup)).1
  exact ⟨newer, {
    invariant := explored.invariant
    split := split.symm
    activeOlder := invariant.activeOpen
    anchoredOlder := invariant.anchored
    rootExplored := explored.discovered
    enclosed := by
      intro source member target wasOpen edge
      have isOpen : source ∈ after.stack := by
        rw [← split]
        rcases List.mem_cons.mp member with same | isNewer
        · exact List.mem_append_right _ (same ▸ List.mem_cons_self)
        · exact List.mem_append_left _ isNewer
      have isNew : source ∉ before.stack := by
        intro wasOpen
        rw [← split] at stackNodup
        have parts := List.nodup_append.mp stackNodup
        rcases List.mem_cons.mp member with same | isNewer
        · exact (List.nodup_cons.mp parts.2.1).1 (same ▸ wasOpen)
        · exact parts.2.2 source isNewer source (List.mem_cons_of_mem _ wasOpen) rfl
      have low := explored.crossing_discover invariant source isOpen isNew target wasOpen edge
      have early := rank_lt_of_mem ((invariant.mem_discovered_iff target).mpr (.inl wasOpen))
      omega }⟩

theorem Visited.of_met_eq (nodup : graph.vertices.Nodup) (invariant : Invariant graph active before)
    (explored : Explored graph active id (graph.edges id) before.discovered.length
      (before.discover id) met after)
    (equal : met = before.discovered.length) :
    Visited graph active id before met (after.emit graph id) := by
  have kept := explored.kept_discover
  rcases explored.closing nodup invariant equal with ⟨newer, closing⟩
  exact {
    kept := {
      discovered := kept.discovered
      stack := closing.stack_emit nodup ▸ List.suffix_rfl
      order := by
        rw [closing.order_emit nodup]
        exact kept.order.trans (List.prefix_append _ _) }
    invariant := closing.invariant_emit nodup
    discovered := (explored.mem_discovered : id ∈ after.discovered)
    crossing := by
      intro source isOpen isNew
      rw [closing.stack_emit nodup] at isOpen
      exact absurd isOpen isNew
    witness := fun less => absurd equal (Nat.ne_of_lt less) }

end Visit

/-! ## The search as a whole -/

theorem explored_explore (closed : graph.Closed) (nodup : graph.vertices.Nodup) {count : Nat}
    (visits : ∀ (before : Search), before.left < count → ∀ (active : List TypeId) (id : TypeId)
      (fresh : id ∈ before.unvisited), Invariant graph active before →
      (∀ anchor ∈ active, graph.Reaches anchor id) →
      Visited graph active id before (visit graph id before fresh).value
        (visit graph id before fresh).state)
    (targets : List TypeId) (lowest : Nat) (before : Search) (less : before.left < count)
    (invariant : Invariant graph (id :: active) before)
    (reached : ∀ anchor ∈ active, graph.Reaches anchor id)
    (edges : ∀ target ∈ targets, graph.Refers id target)
    (bound : lowest ≤ before.discovered.length) :
    Explored graph active id targets lowest before (explore graph targets lowest before).value
      (explore graph targets lowest before).state := by
  induction targets generalizing lowest before with
  | nil =>
      rw [explore]
      exact .nil invariant
  | cons target rest induction =>
      have edge : graph.Refers id target := edges target List.mem_cons_self
      have restEdges : ∀ other ∈ rest, graph.Refers id other := fun other member =>
        edges other (List.mem_cons_of_mem _ member)
      rw [explore]
      split
      next fresh =>
        have reachedTarget := reaches_target reached edge
        have visited := visits before less (id :: active) target fresh invariant reachedTarget
        have shorter := (visit graph target before fresh).within
        have longer := visited.kept.discovered.length_le
        exact .cons_fresh nodup invariant fresh edge bound visited
          (induction _ _ (by omega) visited.invariant restEdges (by omega))
      next visited =>
        have known : target ∈ before.discovered :=
          ((invariant.mem_vertices_iff target).mp (closed id target edge)).resolve_left visited
        split
        next isOpen =>
          have isOpen : target ∈ before.stack := by simpa using isOpen
          exact .cons_open invariant isOpen edge
            (induction _ before less invariant restEdges (by omega))
        next notOpen =>
          have notOpen : target ∉ before.stack := by simpa using notOpen
          exact .cons_emitted known notOpen (induction _ before less invariant restEdges bound)

theorem visited_visit (closed : graph.Closed) (nodup : graph.vertices.Nodup) (before : Search)
    (active : List TypeId) (id : TypeId) (fresh : id ∈ before.unvisited)
    (invariant : Invariant graph active before)
    (reached : ∀ anchor ∈ active, graph.Reaches anchor id) :
    Visited graph active id before (visit graph id before fresh).value
      (visit graph id before fresh).state := by
  induction remaining : before.left using Nat.strongRecOn generalizing before active id with
  | ind count induction =>
      have less : (before.discover id).left < count := remaining ▸ left_discover_lt fresh
      have explored := explored_explore closed nodup
        (fun before less active id fresh invariant reached =>
          induction before.left less before active id fresh invariant reached rfl)
        (graph.edges id) before.discovered.length (before.discover id) less
        (invariant.discover fresh reached) reached (fun _ member => member)
        (by simp [Search.discover])
      rw [visit]
      simp only
      split
      next equal => exact .of_met_eq nodup invariant explored equal
      next different =>
        have upper := explored.met_le
        exact .of_met_lt nodup invariant explored (by omega)

theorem visitEach_spec (closed : graph.Closed) (nodup : graph.vertices.Nodup)
    (ids : List TypeId) (before : Search) (inside : ∀ id ∈ ids, id ∈ graph.vertices)
    (invariant : Invariant graph [] before) :
    Invariant graph [] (visitEach graph before ids) ∧ before.Extends (visitEach graph before ids) ∧
      ∀ id ∈ ids, id ∈ (visitEach graph before ids).discovered := by
  induction ids generalizing before with
  | nil =>
      rw [visitEach]
      exact ⟨invariant, .refl before, by simp⟩
  | cons id rest induction =>
      have restInside : ∀ other ∈ rest, other ∈ graph.vertices := fun other member =>
        inside other (List.mem_cons_of_mem _ member)
      rw [visitEach]
      split
      next fresh =>
        have visited := visited_visit closed nodup before [] id fresh invariant (by simp)
        have final := induction _ restInside visited.invariant
        refine ⟨final.1, visited.kept.trans final.2.1, ?_⟩
        intro other member
        rcases List.mem_cons.mp member with equal | member
        · exact final.2.1.discovered.subset (equal ▸ visited.discovered)
        · exact final.2.2 other member
      next seen =>
        have final := induction _ restInside invariant
        refine ⟨final.1, final.2.1, ?_⟩
        intro other member
        rcases List.mem_cons.mp member with equal | member
        · have known := (invariant.mem_vertices_iff id).mp (inside id List.mem_cons_self)
          exact final.2.1.discovered.subset (equal ▸ known.resolve_left seen)
        · exact final.2.2 other member

end Search

/-! What the search emits: every vertex once, in groups each of which refers only to itself and to
earlier ones. -/

theorem TypeGraph.exists_emission {graph : TypeGraph} (closed : graph.Closed)
    (nodup : graph.vertices.Nodup) :
    ∃ groups, graph.Emission groups ∧ graph.dependencyOrder.order = groups.flatten ∧
      graph.dependencyOrder.cycles = groups.filter graph.isCycle ∧
      graph.dependencyOrder.order.Perm graph.vertices := by
  have final := Search.visitEach_spec closed nodup graph.vertices _ (fun _ member => member)
    (Search.Invariant.start graph)
  rcases final.1.emission with ⟨groups, emission, order, cycles⟩
  refine ⟨groups, emission, order, cycles, ?_⟩
  have settled := final.1.settled
  have emptyStack :
      (Search.visitEach graph { unvisited := graph.vertices } graph.vertices).stack = [] := by
    refine List.eq_nil_iff_forall_not_mem.mpr fun id isOpen => ?_
    rcases final.1.anchored id isOpen with ⟨anchor, member, _⟩
    cases member
  have nodupPlaced := List.nodup_append.mp (final.1.nodup_placed nodup)
  rw [emptyStack, List.nil_append] at settled
  refine settled.trans ((List.perm_ext_iff_of_nodup nodupPlaced.2.1 nodup).mpr fun id => ?_)
  constructor
  · exact fun known => (final.1.mem_vertices_iff id).mpr (.inr known)
  · exact final.2.2 id

end ApiGraph
