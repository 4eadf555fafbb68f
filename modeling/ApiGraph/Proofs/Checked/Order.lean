import ApiGraph.Proofs.Conversion.Walk
import ApiGraph.Proofs.Dependency.Canonical
import ApiGraph.Proofs.Dependency.Order

namespace ApiGraph

/-! # The dependency order with checked accesses

Where there is no type with a number, `Registry.nameOf` and its like answer with something all the
same. Here every access fails then, and with it the whole computation. What is left to prove is that
none ever does. -/

namespace Checked

/-- The name of a type. -/
def nameOf (registry : Registry) (id : TypeId) : Option String :=
  (registry.node? id).map TypeNode.name

theorem nameOf_eq {registry : Registry} {id : TypeId} (registered : id < registry.size) :
    nameOf registry id = some (registry.nameOf id) := by
  have found : registry.node? id = some registry.nodes[id] := List.getElem?_eq_getElem registered
  rw [nameOf, found, Registry.nameOf_eq found, Option.map_some]

theorem mapM_eq_some {α β : Type} {change? : α → Option β} {change : α → β} {values : List α}
    (succeeds : ∀ value ∈ values, change? value = some (change value)) :
    values.mapM change? = some (values.map change) := by
  induction values with
  | nil => rfl
  | cons value rest induction =>
      rw [List.mapM_cons, succeeds value List.mem_cons_self,
        induction fun other member => succeeds other (List.mem_cons_of_mem _ member)]
      rfl

/-! ## Sorting -/

section Sorting

variable {κ : Type} [LE κ] [DecidableLE κ]

/-- Types in the order of a key that each of them has to have. -/
def sortByKey (key : TypeId → Option κ) (ids : List TypeId) : Option (List TypeId) :=
  (ids.mapM fun id => (key id).map fun value => (value, id)).map fun keyed =>
    (keyed.mergeSort fun left right => decide (left.1 ≤ right.1)).map Prod.snd

theorem sortByKey_eq {key : TypeId → Option κ} {value : TypeId → κ} {ids : List TypeId}
    (present : ∀ id ∈ ids, key id = some (value id)) :
    sortByKey key ids =
      some (ids.mergeSort fun left right => decide (value left ≤ value right)) := by
  have keyed : (ids.mapM fun id => (key id).map fun value => (value, id)) =
      some (ids.map fun id => (value id, id)) := by
    apply mapM_eq_some
    intro id member
    rw [present id member, Option.map_some]
  have sorted : (ids.map fun id => (value id, id)).mergeSort
        (fun left right => decide (left.1 ≤ right.1)) =
      (ids.mergeSort fun left right => decide (value left ≤ value right)).map
        fun id => (value id, id) := by
    symm
    apply List.map_mergeSort
    intro _ _ _ _
    rfl
  rw [sortByKey, keyed, Option.map_some, sorted, List.map_map]
  exact congrArg some (List.map_id _)

end Sorting

def sortByName (registry : Registry) (ids : List TypeId) : Option (List TypeId) :=
  sortByKey (nameOf registry) ids

theorem sortByName_eq {registry : Registry} {ids : List TypeId}
    (registered : registry.Registers ids) :
    sortByName registry ids = some (registry.sortByName ids) :=
  sortByKey_eq fun id member => nameOf_eq (registered id member)

/-! ## The graph

The edges of all types are sorted beforehand. A type without an entry in the table has none. -/

def graph (registry : Registry) : Option TypeGraph :=
  (sortByName registry registry.ids).bind fun vertices =>
    (registry.ids.mapM fun id => sortByName registry (registry.dependencies id)).map fun table =>
      { vertices := vertices, edges := fun id => table[id]?.getD [] }

theorem graph_eq {registry : Registry} (closed : registry.IsClosed) :
    graph registry = some (.ofRegistry registry) := by
  have table : (registry.ids.mapM fun id => sortByName registry (registry.dependencies id)) =
      some (registry.ids.map fun id => registry.sortByName (registry.dependencies id)) := by
    apply mapM_eq_some
    intro id _
    apply sortByName_eq
    intro target member
    rcases (TypeGraph.mem_dependencies registry id target).mp member with ⟨node, found, inside⟩
    exact closed node (List.mem_of_getElem? found) target inside
  have edges (id : TypeId) :
      (registry.ids.map fun id => registry.sortByName (registry.dependencies id))[id]?.getD [] =
        registry.sortByName (registry.dependencies id) := by
    by_cases registered : id < registry.size
    · simp [Registry.ids, registered]
    · have none : registry.node? id = none := List.getElem?_eq_none (Nat.le_of_not_lt registered)
      simp [Registry.ids, registered, Registry.dependencies, none, Registry.sortByName]
  have vertices : sortByName registry registry.ids = some registry.sortedIds :=
    sortByName_eq fun _ => List.mem_range.mp
  rw [graph, vertices, table, Option.bind_some, Option.map_some]
  simp only [edges]
  rfl

/-! ## The search -/

/-- The rank of a type, which it has as soon as it is visited. -/
def rank (search : Search) (id : TypeId) : Option Nat := search.discovered.idxOf? id

theorem rank_eq {search : Search} {id : TypeId} (known : id ∈ search.discovered) :
    rank search id = some (search.rank id) :=
  idxOf?_of_mem known

/-- What is taken from the top of a stack down to `root`, and the rest. There is nothing to stop at
unless `root` is on the stack. -/
def popThrough (root : TypeId) : List TypeId → Option (List TypeId × List TypeId)
  | [] => none
  | member :: rest =>
      if member = root then some ([member], rest)
      else (popThrough root rest).map fun (popped, left) => (member :: popped, left)

theorem popThrough_eq {root : TypeId} {newer older : List TypeId} (apart : root ∉ newer) :
    popThrough root (newer ++ root :: older) = some (newer ++ [root], older) := by
  induction newer with
  | nil => simp [popThrough]
  | cons member newer induction =>
      rw [List.mem_cons, not_or] at apart
      rw [List.cons_append, popThrough, if_neg (Ne.symm apart.1), induction apart.2]
      rfl

def emit (graph : TypeGraph) (search : Search) (root : TypeId) :
    Option (Step Search.left search Unit) :=
  (popThrough root search.stack).bind fun (popped, stack) =>
    (sortByKey (rank search) popped).map fun group =>
      let isCycle := group.length > 1 || graph.hasLoop root
      let finished : Search := {
        search with
        stack := stack
        emitted := {
          order := search.emitted.order ++ group
          cycles := if isCycle then search.emitted.cycles ++ [group] else search.emitted.cycles } }
      ⟨(), finished, by
        have same : finished.left = search.left := rfl
        exact Nat.le_of_eq same⟩

mutual

/-- The rank that a visit has met is compared to the rank that is kept for the type itself. -/
def visit (graph : TypeGraph) (id : TypeId) (search : Search) (fresh : id ∈ search.unvisited) :
    Option (Step Search.left search Nat) :=
  have less : (search.discover id).left < search.left := Search.left_discover_lt fresh
  (explore graph (graph.edges id) search.discovered.length (search.discover id)).bind
    fun explored =>
      (rank explored.state id).bind fun own =>
        if explored.value = own then
          (emit graph explored.state id).map fun finished =>
            ⟨explored.value, finished.state,
              Nat.le_trans finished.within (Nat.le_trans explored.within (Nat.le_of_lt less))⟩
        else some (explored.weaken (Nat.le_of_lt less))
termination_by (search.left, 0)
decreasing_by exact Prod.Lex.left _ _ less

/-- Also a type that has just been visited is asked for what is kept for it. -/
def explore (graph : TypeGraph) (targets : List TypeId) (lowest : Nat) (search : Search) :
    Option (Step Search.left search Nat) :=
  match targets with
  | [] => some (.pure search lowest)
  | target :: rest =>
      if fresh : target ∈ search.unvisited then
        (visit graph target search fresh).bind fun visited =>
          (rank visited.state target).bind fun _ =>
            (explore graph rest (min lowest visited.value) visited.state).map
              (·.weaken visited.within)
      else if search.stack.contains target then
        (rank search target).bind fun known => explore graph rest (min lowest known) search
      else explore graph rest lowest search
termination_by (search.left, targets.length + 1)
decreasing_by
  · exact Prod.Lex.right _ (Nat.succ_pos _)
  · rcases Nat.lt_or_eq_of_le visited.within with less | equal
    · exact Prod.Lex.left _ _ less
    · exact equal ▸ Prod.Lex.right _ (Nat.lt_succ_self _)
  · exact Prod.Lex.right _ (Nat.lt_succ_self _)
  · exact Prod.Lex.right _ (Nat.lt_succ_self _)

end

def visitEach (graph : TypeGraph) (search : Search) : List TypeId → Option Search
  | [] => some search
  | id :: rest =>
      if fresh : id ∈ search.unvisited then
        (visit graph id search fresh).bind fun visited => visitEach graph visited.state rest
      else visitEach graph search rest

def dependencyOrder (registry : Registry) : Option DependencyOrder :=
  (graph registry).bind fun graph =>
    (visitEach graph { unvisited := graph.vertices } graph.vertices).map Search.emitted

/-! ## No access fails -/

section Emission

variable {graph : TypeGraph} {active newer older : List TypeId} {search : Search} {root : TypeId}
  {plain : PlainSearch}

/-- The group of a type is what stands above it on the stack, the first one discovered first. -/
theorem sortByKey_rank (nodup : graph.vertices.Nodup)
    (closing : Search.Closing graph active root newer older search)
    (follows : Search.Follows graph search plain) :
    sortByKey (rank search) (newer ++ [root]) = some (root :: newer.reverse) := by
  have distinct := (List.nodup_append.mp (closing.invariant.nodup_placed nodup)).2.1
  have opened : (root :: newer.reverse).Sublist search.discovered := by
    rw [← follows.discovered]
    exact follows.group_sublist closing
  have perm : (newer ++ [root]).Perm (root :: newer.reverse) :=
    (List.perm_append_singleton _ _).trans (newer.reverse_perm.symm.cons root)
  rw [sortByKey_eq fun id member => rank_eq (opened.subset (perm.mem_iff.mp member))]
  exact congrArg some (mergeSort_idxOf_eq distinct opened perm)

/-- When the group of a type is emitted, the type is on the stack. -/
theorem emit_eq (nodup : graph.vertices.Nodup)
    (closing : Search.Closing graph active root newer older search)
    (follows : Search.Follows graph search plain) :
    emit graph search root = some ⟨(), search.emit graph root, Nat.le_refl _⟩ := by
  have popped : popThrough root search.stack = some (newer ++ [root], older) := by
    rw [closing.split]
    exact popThrough_eq (closing.root_notMem_newer nodup)
  have stack := closing.stack_emit nodup
  rw [emit, popped, Option.bind_some]
  dsimp only
  rw [sortByKey_rank nodup closing follows, Option.map_some]
  congr 2
  rw [Search.emit, closing.groupOf_eq nodup] at stack ⊢
  simp only at stack ⊢
  rw [stack]

mutual

theorem visit_eq (closed : graph.Closed) (nodup : graph.vertices.Nodup) (search : Search)
    (plain : PlainSearch) (active : List TypeId) (id : TypeId) (fresh : id ∈ search.unvisited)
    (invariant : Search.Invariant graph active search)
    (reached : ∀ anchor ∈ active, graph.Reaches anchor id)
    (follows : Search.Follows graph search plain) :
    visit graph id search fresh = some (Search.visit graph id search fresh) := by
  have less : (search.discover id).left < search.left := Search.left_discover_lt fresh
  have explored := Search.explored_edges closed nodup fresh invariant reached
  have begun := invariant.discover fresh reached
  have inner := Search.follows_explore closed nodup (search.discover id) (plain.discover id) active
    id (graph.edges id) search.discovered.length begun reached (fun _ member => member)
    (follows.discover id)
  have own : rank (Search.explore graph (graph.edges id) search.discovered.length
      (search.discover id)).state id = some search.discovered.length := by
    have unknown := invariant.notMem_discovered nodup fresh
    have first : (search.discover id).rank id = search.discovered.length := by
      simp [Search.rank, Search.discover, List.idxOf_append_of_notMem unknown]
    rw [rank_eq explored.mem_discovered, explored.kept.rank_eq (by simp [Search.discover]), first]
  rw [visit, explore_eq closed nodup (search.discover id) (plain.discover id) active id
    (graph.edges id) search.discovered.length begun reached (fun _ member => member)
    (follows.discover id), Option.bind_some, own, Option.bind_some]
  split
  next equal =>
    rcases explored.closing nodup invariant equal with ⟨newer, closing⟩
    rw [emit_eq nodup closing inner, Option.map_some]
    congr 1
    apply Step.ext
    · rw [Search.visit]
    · rw [Search.visit]
      simp only [equal, if_true]
  next different =>
    congr 1
    apply Step.ext
    · rw [Search.visit]
      rfl
    · rw [Search.visit]
      simp only [different, if_false]
      rfl
termination_by (search.left, 0)
decreasing_by exact Prod.Lex.left _ _ less

theorem explore_eq (closed : graph.Closed) (nodup : graph.vertices.Nodup) (search : Search)
    (plain : PlainSearch) (active : List TypeId) (id : TypeId) (targets : List TypeId)
    (lowest : Nat) (invariant : Search.Invariant graph (id :: active) search)
    (reached : ∀ anchor ∈ active, graph.Reaches anchor id)
    (edges : ∀ target ∈ targets, graph.Refers id target)
    (follows : Search.Follows graph search plain) :
    explore graph targets lowest search = some (Search.explore graph targets lowest search) := by
  match targets with
  | [] => rw [explore, Search.explore]
  | target :: rest =>
      have restEdges : ∀ other ∈ rest, graph.Refers id other := fun other member =>
        edges other (List.mem_cons_of_mem _ member)
      rw [explore, Search.explore]
      split
      next fresh =>
        have reachedTarget := Search.reaches_target reached (edges target List.mem_cons_self)
        have visited := Search.visited_visit closed nodup search (id :: active) target fresh
          invariant reachedTarget
        have middle := Search.follows_visit closed nodup search plain (id :: active) target fresh
          invariant reachedTarget follows
        have within := (Search.visit graph target search fresh).within
        rw [visit_eq closed nodup search plain (id :: active) target fresh invariant reachedTarget
            follows, Option.bind_some, rank_eq visited.discovered, Option.bind_some,
          explore_eq closed nodup _ _ active id rest _ visited.invariant reached restEdges middle]
        rfl
      next =>
        split
        next isOpen =>
          have isOpen : target ∈ search.stack := by simpa using isOpen
          have known := (invariant.mem_discovered_iff target).mpr (.inl isOpen)
          rw [rank_eq known]
          exact explore_eq closed nodup _ _ active id rest _ invariant reached restEdges follows
        next => exact explore_eq closed nodup _ _ active id rest _ invariant reached restEdges follows
termination_by (search.left, targets.length + 1)
decreasing_by
  · exact Prod.Lex.right _ (Nat.lt_succ_self _)
  · exact Prod.Lex.right _ (Nat.lt_succ_self _)
  · exact Prod.Lex.right _ (Nat.succ_pos _)
  · rcases Nat.lt_or_eq_of_le within with less | equal
    · exact Prod.Lex.left _ _ less
    · exact equal ▸ Prod.Lex.right _ (Nat.lt_succ_self _)

end

theorem visitEach_eq (closed : graph.Closed) (nodup : graph.vertices.Nodup) (ids : List TypeId)
    (search : Search) (plain : PlainSearch) (invariant : Search.Invariant graph [] search)
    (follows : Search.Follows graph search plain) :
    visitEach graph search ids = some (Search.visitEach graph search ids) := by
  induction ids generalizing search plain with
  | nil => rfl
  | cons id rest induction =>
      rw [visitEach, Search.visitEach]
      split
      next fresh =>
        have visited := Search.visited_visit closed nodup search [] id fresh invariant (by simp)
        have middle := Search.follows_visit closed nodup search plain [] id fresh invariant (by simp)
          follows
        rw [visit_eq closed nodup search plain [] id fresh invariant (by simp) follows]
        exact induction _ _ visited.invariant middle
      next => exact induction _ _ invariant follows

end Emission

/-- No access fails as long as the types refer to registered types only. -/
theorem dependencyOrder_eq {registry : Registry} (closed : registry.IsClosed) :
    dependencyOrder registry = some registry.dependencyOrder := by
  rw [dependencyOrder, graph_eq closed, Option.bind_some,
    visitEach_eq (TypeGraph.closed_ofRegistry closed) (TypeGraph.nodup_vertices_ofRegistry registry)
      _ _ _ (.start _) (.start _)]
  rfl

-- One number that dangles is enough to fail.
example : dependencyOrder { nodes := [{ name := "A", shape := .array (.named 1) }] } = none := by
  cbv

end Checked

end ApiGraph
