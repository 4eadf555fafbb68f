import ApiGraph.Build
import ApiGraph.Proofs.Dependency.Order

namespace ApiGraph

/-! # What handlers reach

A type is reached from a place that holds a type by a path through fields, elements and values,
which may cross inline and named types alike. The partition computes this in two levels: the named
types that a handler mentions itself, and from there the graph of named types. -/

variable {registry : Registry} {id : TypeId}

/-- A path from a place that holds a type to a reference to a named type. -/
inductive Registry.Reaches (registry : Registry) : TypeRef TypeId → TypeId → Prop where
  | arrive (id : TypeId) : registry.Reaches (.named id) id
  | inside {shape : Shape TypeId} {child : TypeRef TypeId} {id : TypeId}
      (member : child ∈ shape.children) (rest : registry.Reaches child id) :
      registry.Reaches (.inline shape) id
  | through {target : TypeId} {node : TypeNode} {child : TypeRef TypeId} {id : TypeId}
      (found : registry.node? target = some node) (member : child ∈ node.shape.children)
      (rest : registry.Reaches child id) : registry.Reaches (.named target) id

/-- The places of a handler that hold a type. -/
inductive Handler.Slot (handler : Handler) : TypeRef TypeId → Prop where
  | requestBody {type : TypeRef TypeId} (body : handler.requestBody = some type) :
      handler.Slot type
  | responseBody {type : TypeRef TypeId} (body : handler.responseBody = some type) :
      handler.Slot type
  | headerParam {field : TypeField TypeId} (member : field ∈ handler.headerParams) :
      handler.Slot field.type
  | pathParam {field : TypeField TypeId} (member : field ∈ handler.pathParams) :
      handler.Slot field.type
  | queryParam {field : TypeField TypeId} (member : field ∈ handler.queryParams) :
      handler.Slot field.type

def Handler.Reaches (handler : Handler) (registry : Registry) (id : TypeId) : Prop :=
  ∃ type, handler.Slot type ∧ registry.Reaches type id

/-! ## Two levels -/

namespace Registry

theorem refers_of_child {source target : TypeId} {node : TypeNode} {child : TypeRef TypeId}
    (found : registry.node? source = some node) (member : child ∈ node.shape.children)
    (mentioned : target ∈ child.targets) :
    (TypeGraph.ofRegistry registry).Refers source target := by
  rw [TypeGraph.refers_ofRegistry, TypeGraph.mem_dependencies]
  exact ⟨node, found, Shape.mem_targets.mpr ⟨child, member, mentioned⟩⟩

theorem Reaches.of_mentions {type : TypeRef TypeId} {root : TypeId}
    (mentions : type.Mentions root) (reaches : registry.Reaches (.named root) id) :
    registry.Reaches type id := by
  induction mentions with
  | itself target => exact reaches
  | inside member _ induction => exact .inside member (induction reaches)

theorem reaches_of_path {root : TypeId} (path : (TypeGraph.ofRegistry registry).Reaches root id) :
    registry.Reaches (.named root) id := by
  induction path using Relation.ReflTransGen.head_induction_on with
  | refl => exact .arrive id
  | head step _ induction =>
      rw [TypeGraph.refers_ofRegistry, TypeGraph.mem_dependencies] at step
      rcases step with ⟨node, found, mentioned⟩
      rcases Shape.mem_targets.mp mentioned with ⟨child, member, mentioned⟩
      exact .through found member (.of_mentions (TypeRef.mem_targets_iff.mp mentioned) induction)

theorem reaches_iff {type : TypeRef TypeId} :
    registry.Reaches type id ↔
      ∃ root ∈ type.targets, (TypeGraph.ofRegistry registry).Reaches root id := by
  constructor
  · intro reaches
    induction reaches with
    | arrive id => exact ⟨id, by simp [TypeRef.targets], .refl⟩
    | inside member _ induction =>
        rcases induction with ⟨root, mentioned, path⟩
        rw [TypeRef.targets]
        exact ⟨root, Shape.mem_targets.mpr ⟨_, member, mentioned⟩, path⟩
    | @through target node child id found member _ induction =>
        rcases induction with ⟨root, mentioned, path⟩
        have step := refers_of_child found member mentioned
        exact ⟨target, by simp [TypeRef.targets], path.head step⟩
  · intro holds
    rcases holds with ⟨root, mentioned, path⟩
    exact .of_mentions (TypeRef.mem_targets_iff.mp mentioned) (reaches_of_path path)

end Registry

namespace Handler

variable {handler : Handler}

theorem slot_iff {type : TypeRef TypeId} : handler.Slot type ↔ type ∈ handler.typeRefs := by
  simp only [typeRefs, params, List.mem_append, List.mem_map, Option.mem_toList]
  constructor
  · intro slot
    cases slot with
    | requestBody body => exact .inl (.inl body)
    | responseBody body => exact .inl (.inr body)
    | headerParam member => exact .inr ⟨_, .inl (.inl member), rfl⟩
    | pathParam member => exact .inr ⟨_, .inl (.inr member), rfl⟩
    | queryParam member => exact .inr ⟨_, .inr member, rfl⟩
  · intro holds
    rcases holds with (body | body) | ⟨field, (member | member) | member, rfl⟩
    · exact .requestBody body
    · exact .responseBody body
    · exact .headerParam member
    · exact .pathParam member
    · exact .queryParam member

theorem reaches_iff :
    handler.Reaches registry id ↔
      ∃ root ∈ handler.roots, (TypeGraph.ofRegistry registry).Reaches root id := by
  simp only [Reaches, slot_iff, Registry.reaches_iff, roots, TypeGraph.mem_sortIds,
    List.mem_flatMap]
  constructor
  · intro holds
    rcases holds with ⟨type, slot, root, mentioned, path⟩
    exact ⟨root, ⟨type, slot, mentioned⟩, path⟩
  · intro holds
    rcases holds with ⟨root, ⟨type, slot, mentioned⟩, path⟩
    exact ⟨type, slot, root, mentioned, path⟩

end Handler

/-- What the traversal of the graph finds from the handlers of a module is what they reach. -/
theorem Partition.mem_reached {module : Module} :
    id ∈ Partition.reached (TypeGraph.ofRegistry registry) module ↔
      id < registry.size ∧ ∃ handler ∈ module.handlers, handler.Reaches registry id := by
  rw [Partition.reached, TypeGraph.mem_reachable (TypeGraph.rooted_ofRegistry registry),
    TypeGraph.mem_vertices_ofRegistry]
  simp only [Handler.reaches_iff, List.mem_flatMap]
  constructor
  · intro holds
    rcases holds with ⟨registered, root, ⟨handler, member, mentioned⟩, path⟩
    exact ⟨registered, handler, member, root, mentioned, path⟩
  · intro holds
    rcases holds with ⟨registered, handler, member, root, mentioned, path⟩
    exact ⟨registered, root, ⟨handler, member, mentioned⟩, path⟩

end ApiGraph
