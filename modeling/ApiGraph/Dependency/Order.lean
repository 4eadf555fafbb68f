import ApiGraph.Dependency.Graph
import ApiGraph.Step

namespace ApiGraph

/-! The order in which every type stands behind the types that it depends on.

A depth-first search starts from every type and follows every dependency in the order of names.
Types that depend on each other form a group, which is emitted as a whole once everything else that
it depends on has been, its members in the order of their discovery. -/

structure DependencyOrder where
  order : List TypeId := []
  /-- The groups of several types, and the single types that depend on themselves. -/
  cycles : List (List TypeId) := []

namespace DependencyOrder

def position? (dependencies : DependencyOrder) (id : TypeId) : Option Nat :=
  dependencies.order.idxOf? id

/-- Types in dependency order. Those without a place in it come last. -/
def sort (dependencies : DependencyOrder) (ids : List TypeId) : List TypeId :=
  ids.mergeSort fun left right =>
    decide (dependencies.order.idxOf left ≤ dependencies.order.idxOf right)

end DependencyOrder

/-! ## The state of the search -/

structure Search where
  unvisited : List TypeId
  /-- The types visited so far, in the order of their discovery. -/
  discovered : List TypeId := []
  /-- The types whose group is still open, the last one discovered first. -/
  stack : List TypeId := []
  emitted : DependencyOrder := {}

namespace Search

def discover (search : Search) (id : TypeId) : Search :=
  { search with
    unvisited := search.unvisited.erase id
    discovered := search.discovered ++ [id]
    stack := id :: search.stack }

/-- The rank of a type in the order of discovery. -/
def rank (search : Search) (id : TypeId) : Nat := search.discovered.idxOf id

/-- The open types down to `root`, in the order of their discovery. -/
def groupOf (search : Search) (root : TypeId) : List TypeId :=
  root :: (search.stack.takeWhile (· != root)).reverse

/-- Close the group that was discovered from `root` on. -/
def emit (graph : TypeGraph) (search : Search) (root : TypeId) : Search :=
  let group := search.groupOf root
  let isCycle := group.length > 1 || graph.hasLoop root
  { search with
    stack := (search.stack.dropWhile (· != root)).tail
    emitted := {
      order := search.emitted.order ++ group
      cycles := if isCycle then search.emitted.cycles ++ [group] else search.emitted.cycles } }

def left (search : Search) : Nat := search.unvisited.length

theorem left_discover_lt {search : Search} {id : TypeId} (fresh : id ∈ search.unvisited) :
    (search.discover id).left < search.left := by
  have shorter := List.length_erase_of_mem fresh
  have positive := List.length_pos_of_mem fresh
  simp only [left, discover]
  omega

/-! ## The search

`visit` and `explore` give the least rank of an open type that was met. A type that meets nothing
before itself is the first of its group. -/

mutual

def visit (graph : TypeGraph) (id : TypeId) (search : Search) (fresh : id ∈ search.unvisited) :
    Step left search Nat :=
  let rank := search.discovered.length
  have less : (search.discover id).left < search.left := left_discover_lt fresh
  let explored := explore graph (graph.edges id) rank (search.discover id)
  let finished : Search :=
    if explored.value = rank then explored.state.emit graph id else explored.state
  ⟨explored.value, finished, by
    have same : finished.left = explored.state.left := by
      simp only [finished]
      split <;> rfl
    exact same ▸ Nat.le_trans explored.within (Nat.le_of_lt less)⟩
termination_by (search.left, 0)
decreasing_by exact Prod.Lex.left _ _ less

def explore (graph : TypeGraph) (targets : List TypeId) (lowest : Nat) (search : Search) :
    Step left search Nat :=
  match targets with
  | [] => .pure search lowest
  | target :: rest =>
      if fresh : target ∈ search.unvisited then
        (visit graph target search fresh).bind fun search _ met =>
          explore graph rest (min lowest met) search
      else if search.stack.contains target then
        explore graph rest (min lowest (search.rank target)) search
      else explore graph rest lowest search
termination_by (search.left, targets.length + 1)
decreasing_by
  · exact Prod.Lex.right _ (Nat.succ_pos _)
  · next within =>
    rcases Nat.lt_or_eq_of_le within with less | equal
    · exact Prod.Lex.left _ _ less
    · exact equal ▸ Prod.Lex.right _ (Nat.lt_succ_self _)
  · exact Prod.Lex.right _ (Nat.lt_succ_self _)
  · exact Prod.Lex.right _ (Nat.lt_succ_self _)

end

/-- Visit every type that has not been visited from an earlier one. -/
def visitEach (graph : TypeGraph) (search : Search) : List TypeId → Search
  | [] => search
  | id :: rest =>
      if fresh : id ∈ search.unvisited then visitEach graph (visit graph id search fresh).state rest
      else visitEach graph search rest

end Search

def TypeGraph.dependencyOrder (graph : TypeGraph) : DependencyOrder :=
  (Search.visitEach graph { unvisited := graph.vertices } graph.vertices).emitted

def Registry.dependencyOrder (registry : Registry) : DependencyOrder :=
  (TypeGraph.ofRegistry registry).dependencyOrder

end ApiGraph
