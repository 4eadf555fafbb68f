import ApiGraph.Registry

namespace ApiGraph

/-! The graph of named types: an edge leads from a type to each named type that it refers to. -/

structure TypeGraph where
  /-- The types, in the order of their names. -/
  vertices : List TypeId
  /-- The types that a type depends on, in the order of their names. -/
  edges : TypeId → List TypeId

namespace TypeGraph

def ofRegistry (registry : Registry) : TypeGraph where
  vertices := registry.sortedIds
  edges id := registry.sortByName (registry.dependencies id)

def hasLoop (graph : TypeGraph) (id : TypeId) : Bool := (graph.edges id).contains id

/-! ## Reachability -/

/-- The types of `unseen` that are reached from `pending` by way of other such types, each once. -/
def reachFrom (graph : TypeGraph) (unseen pending : List TypeId) : List TypeId :=
  match pending with
  | [] => []
  | id :: rest =>
      if id ∈ unseen then id :: reachFrom graph (unseen.erase id) (graph.edges id ++ rest)
      else reachFrom graph unseen rest
termination_by (unseen.length, pending.length)
decreasing_by
  · next member =>
      have shorter := List.length_erase_of_mem member
      have positive := List.length_pos_of_mem member
      exact Prod.Lex.left _ _ (by omega)
  · exact Prod.Lex.right _ (Nat.lt_succ_self _)

/-- The types that are reached from the given ones, which are reached themselves, in the order of
their registration. -/
def reachable (graph : TypeGraph) (roots : List TypeId) : List TypeId :=
  Registry.sortIds (graph.reachFrom graph.vertices roots)

end TypeGraph

end ApiGraph
