import ApiGraph.Dependency.Graph
import Mathlib.Logic.Relation

namespace ApiGraph

/-! Which types are reached from which. `Reaches` says it by chains of references, and
`mem_reachable` says that the traversal of a graph finds exactly the types that `Reaches` speaks
of. -/

namespace TypeGraph

/-- One type refers to another. -/
def Refers (graph : TypeGraph) (source target : TypeId) : Prop := target ∈ graph.edges source

/-- A chain of references, which may be empty, leads from one type to another. -/
abbrev Reaches (graph : TypeGraph) : TypeId → TypeId → Prop := Relation.ReflTransGen graph.Refers

/-- Two types reach each other. -/
def Mutual (graph : TypeGraph) (left right : TypeId) : Prop :=
  graph.Reaches left right ∧ graph.Reaches right left

theorem Mutual.symm {graph : TypeGraph} {left right : TypeId} (both : graph.Mutual left right) :
    graph.Mutual right left := ⟨both.2, both.1⟩

theorem Mutual.trans {graph : TypeGraph} {first second third : TypeId}
    (left : graph.Mutual first second) (right : graph.Mutual second third) :
    graph.Mutual first third :=
  ⟨left.1.trans right.1, right.2.trans left.2⟩

/-- Every type that refers to something is a vertex. -/
def Rooted (graph : TypeGraph) : Prop :=
  ∀ source target, graph.Refers source target → source ∈ graph.vertices

/-- Every type that something refers to is a vertex. -/
def Closed (graph : TypeGraph) : Prop :=
  ∀ source target, graph.Refers source target → target ∈ graph.vertices

/-! ## The traversal

The traversal only enters types that it has not seen, so what it finds is reached by way of unseen
types. Erasing a type on entering it loses nothing: a path that comes back to that type may as well
begin there. -/

/-- A reference to a type of a region. -/
def RefersWithin (graph : TypeGraph) (region : List TypeId) (source target : TypeId) : Prop :=
  graph.Refers source target ∧ target ∈ region

/-- A path that stays in a region leads from one of several roots to a type. -/
def ReachedWithin (graph : TypeGraph) (region roots : List TypeId) (id : TypeId) : Prop :=
  ∃ root ∈ roots, root ∈ region ∧ Relation.ReflTransGen (graph.RefersWithin region) root id

theorem ReachedWithin.of_erase {graph : TypeGraph} {region rest : List TypeId} {entered id : TypeId}
    (inside : entered ∈ region)
    (reached : graph.ReachedWithin (region.erase entered) (graph.edges entered ++ rest) id) :
    graph.ReachedWithin region (entered :: rest) id := by
  rcases reached with ⟨root, member, remaining, path⟩
  have wider : Relation.ReflTransGen (graph.RefersWithin region) root id :=
    Relation.ReflTransGen.mono (fun _ _ step => ⟨step.1, List.mem_of_mem_erase step.2⟩) _ _ path
  rcases List.mem_append.mp member with edge | member
  · have first : graph.RefersWithin region entered root := ⟨edge, List.mem_of_mem_erase remaining⟩
    exact ⟨entered, List.mem_cons_self, inside, wider.head first⟩
  · exact ⟨root, List.mem_cons_of_mem _ member, List.mem_of_mem_erase remaining, wider⟩

theorem ReachedWithin.erase {graph : TypeGraph} {region rest : List TypeId} {entered id : TypeId}
    (reached : graph.ReachedWithin region (entered :: rest) id) (different : id ≠ entered) :
    graph.ReachedWithin (region.erase entered) (graph.edges entered ++ rest) id := by
  rcases reached with ⟨root, member, inside, path⟩
  induction path with
  | refl =>
      rcases List.mem_cons.mp member with equal | member
      · exact absurd equal different
      · exact ⟨root, List.mem_append_right _ member,
          (List.mem_erase_of_ne different).mpr inside, .refl⟩
  | @tail source target path step induction =>
      have remaining : target ∈ region.erase entered :=
        (List.mem_erase_of_ne different).mpr step.2
      by_cases same : source = entered
      · subst same
        exact ⟨target, List.mem_append_left _ step.1, remaining, .refl⟩
      · rcases induction same with ⟨start, member, startRemaining, shorter⟩
        exact ⟨start, member, startRemaining, shorter.tail ⟨step.1, remaining⟩⟩

theorem mem_reachFrom (graph : TypeGraph) (unseen pending : List TypeId) (id : TypeId) :
    id ∈ graph.reachFrom unseen pending ↔ graph.ReachedWithin unseen pending id := by
  fun_induction reachFrom graph unseen pending with
  | case1 unseen => simp [ReachedWithin]
  | case2 unseen entered rest inside induction =>
      rw [List.mem_cons, induction]
      constructor
      · intro holds
        rcases holds with equal | reached
        · subst equal
          exact ⟨id, List.mem_cons_self, inside, .refl⟩
        · exact reached.of_erase inside
      · intro reached
        by_cases same : id = entered
        · exact .inl same
        · exact .inr (reached.erase same)
  | case3 unseen passed rest outside induction =>
      rw [induction]
      constructor
      · intro holds
        rcases holds with ⟨root, member, path⟩
        exact ⟨root, List.mem_cons_of_mem _ member, path⟩
      · intro holds
        rcases holds with ⟨root, member, inside, path⟩
        rcases List.mem_cons.mp member with equal | member
        · exact absurd (equal ▸ inside) outside
        · exact ⟨root, member, inside, path⟩

/-- In a rooted graph a path between vertices never leaves the vertices. -/
theorem Rooted.stays {graph : TypeGraph} (rooted : graph.Rooted) {root id : TypeId}
    (vertex : id ∈ graph.vertices) (path : graph.Reaches root id) :
    root ∈ graph.vertices ∧
      Relation.ReflTransGen (graph.RefersWithin graph.vertices) root id := by
  induction path using Relation.ReflTransGen.head_induction_on with
  | refl => exact ⟨vertex, .refl⟩
  | head step _ induction =>
      exact ⟨rooted _ _ step, induction.2.head ⟨step, induction.1⟩⟩

theorem mem_sortIds (ids : List TypeId) (id : TypeId) : id ∈ Registry.sortIds ids ↔ id ∈ ids := by
  simp [Registry.sortIds, List.mem_eraseDups]

/-- What is reached from some roots are the vertices that a chain of references leads to from one of
them. -/
theorem mem_reachable {graph : TypeGraph} (rooted : graph.Rooted) (roots : List TypeId)
    (id : TypeId) :
    id ∈ graph.reachable roots ↔ id ∈ graph.vertices ∧ ∃ root ∈ roots, graph.Reaches root id := by
  rw [reachable, mem_sortIds, mem_reachFrom]
  constructor
  · intro holds
    rcases holds with ⟨root, member, inside, path⟩
    have chain : graph.Reaches root id := 
      Relation.ReflTransGen.mono (fun _ _ step => step.1) _ _ path
    refine ⟨?_, root, member, chain⟩
    cases path with
    | refl => exact inside
    | tail _ step => exact step.2
  · intro holds
    rcases holds with ⟨vertex, root, member, path⟩
    have inside := rooted.stays vertex path
    exact ⟨root, member, inside.1, inside.2⟩

/-! ## The graph of a registry -/

section Registry

variable (registry : Registry)

theorem mem_sortedIds (id : TypeId) : id ∈ registry.sortedIds ↔ id < registry.size := by
  simp [Registry.sortedIds, Registry.sortByName, Registry.ids]

theorem mem_vertices_ofRegistry (id : TypeId) :
    id ∈ (ofRegistry registry).vertices ↔ id < registry.size := mem_sortedIds registry id

theorem refers_ofRegistry (source target : TypeId) :
    (ofRegistry registry).Refers source target ↔ target ∈ registry.dependencies source := by
  simp [Refers, ofRegistry, Registry.sortByName]

theorem mem_dependencies (source target : TypeId) :
    target ∈ registry.dependencies source ↔
      ∃ node, registry.node? source = some node ∧ target ∈ node.shape.targets := by
  unfold Registry.dependencies
  cases found : registry.node? source with
  | none => simp
  | some node => simp [mem_sortIds]

theorem rooted_ofRegistry : (ofRegistry registry).Rooted := by
  intro source target edge
  rcases
      (mem_dependencies registry source target).mp ((refers_ofRegistry registry _ _).mp edge) with
    ⟨node, found, _⟩
  rw [mem_vertices_ofRegistry]
  exact (List.getElem?_eq_some_iff.mp found).1

end Registry

end TypeGraph

end ApiGraph
