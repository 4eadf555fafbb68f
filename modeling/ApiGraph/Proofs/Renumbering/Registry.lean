import ApiGraph.Proofs.Dependency.Order
import ApiGraph.Proofs.Renaming
import ApiGraph.Proofs.Sorting
import Mathlib

namespace ApiGraph

/-! # Registries with other numbers

The numbers of types say in which order they were registered and nothing else. Two registries that
differ in the numbers only have the same graph of types: what is computed from the names of types is
carried from the one to the other. -/

/-- A node with other numbers for what it refers to. -/
def TypeNode.renumber (renumbering : TypeId → TypeId) (node : TypeNode) : TypeNode :=
  { node with shape := node.shape.rename renumbering }

namespace Registry

/-- The names of registered types lead back to them. -/
def IsNamed (registry : Registry) : Prop :=
  ∀ id node, registry.node? id = some node → registry.lookup? node.name = some id

/-- The second registry is the first one with other numbers. -/
structure Renumbers (before : Registry) (renumbering : Equiv.Perm TypeId) (after : Registry) :
    Prop where
  size : after.size = before.size
  node? : ∀ id, after.node? (renumbering id) = (before.node? id).map (.renumber renumbering)
  lookup? : ∀ name, after.lookup? name = (before.lookup? name).map renumbering

variable {registry before after : Registry} {renumbering : Equiv.Perm TypeId} {id : TypeId}

theorem IsNamed.nameOf_injective (named : registry.IsNamed) {left right : TypeId}
    (leftRegistered : left < registry.size) (rightRegistered : right < registry.size)
    (same : registry.nameOf left = registry.nameOf right) : left = right := by
  have leftFound : registry.node? left = some registry.nodes[left] :=
    List.getElem?_eq_getElem leftRegistered
  have rightFound : registry.node? right = some registry.nodes[right] :=
    List.getElem?_eq_getElem rightRegistered
  have bound := named _ _ leftFound
  rw [← nameOf_eq leftFound, same, nameOf_eq rightFound, named _ _ rightFound] at bound
  exact (Option.some.inj bound).symm

namespace Renumbers

variable (renumbers : before.Renumbers renumbering after)

include renumbers

theorem symm : after.Renumbers renumbering.symm before where
  size := renumbers.size.symm
  node? id := by
    have found := renumbers.node? (renumbering.symm id)
    rw [Equiv.apply_symm_apply] at found
    rw [found, Option.map_map]
    cases before.node? (renumbering.symm id) with
    | none => rfl
    | some node =>
        have shape : (node.shape.rename renumbering).rename renumbering.symm = node.shape := by
          rw [Shape.rename_rename]
          simp only [Equiv.symm_apply_apply, Shape.rename_self]
        simp only [Option.map_some, Function.comp, TypeNode.renumber, shape]
  lookup? name := by
    rw [renumbers.lookup?, Option.map_map]
    cases before.lookup? name <;> simp

theorem lt_size_iff : renumbering id < after.size ↔ id < before.size := by
  have registered (registry : Registry) (id : TypeId) :
      id < registry.size ↔ (registry.node? id).isSome := by
    rw [Registry.node?, Registry.size, Option.isSome_iff_exists]
    simp [List.getElem?_eq_some_iff]
  rw [registered, registered, renumbers.node?, Option.isSome_map]

theorem nameOf (id : TypeId) : after.nameOf (renumbering id) = before.nameOf id := by
  rw [Registry.nameOf, Registry.nameOf, renumbers.node?]
  cases before.node? id <;> rfl

theorem rename_rename (type : TypeRef TypeId) :
    (type.rename renumbering).rename after.nameOf = type.rename before.nameOf := by
  rw [TypeRef.rename_rename]
  simp only [renumbers.nameOf]

theorem map_rename_rename (type? : Option (TypeRef TypeId)) :
    (type?.map (·.rename renumbering)).map (·.rename after.nameOf) =
      type?.map (·.rename before.nameOf) := by
  cases type? with
  | none => rfl
  | some type => simp only [Option.map_some, renumbers.rename_rename]

theorem renameFields_renameFields (fields : List (TypeField TypeId)) :
    renameFields after.nameOf (renameFields renumbering fields) =
      renameFields before.nameOf fields := by
  rw [renameFields_rename]
  simp only [renumbers.nameOf]

theorem named (named : before.IsNamed) : after.IsNamed := by
  intro id node found
  have old := renumbers.symm.node? id
  rw [found, Option.map_some] at old
  have bound := named _ _ old
  have name : (TypeNode.renumber renumbering.symm node).name = node.name := rfl
  rw [renumbers.lookup?, ← name, bound, Option.map_some, Equiv.apply_symm_apply]

theorem ids_perm : (before.ids.map renumbering).Perm after.ids := by
  have distinct : (before.ids.map renumbering).Nodup :=
    List.nodup_range.map renumbering.injective
  refine (List.perm_ext_iff_of_nodup distinct List.nodup_range).mpr fun id => ?_
  rw [List.mem_map, List.mem_range]
  constructor
  · intro holds
    rcases holds with ⟨old, member, rfl⟩
    exact renumbers.lt_size_iff.mpr (List.mem_range.mp member)
  · intro registered
    refine ⟨renumbering.symm id, List.mem_range.mpr ?_, Equiv.apply_symm_apply _ _⟩
    exact renumbers.symm.lt_size_iff.mpr registered

omit renumbers in
theorem ids_node? (registry : Registry) :
    registry.ids.map registry.node? = registry.nodes.map some := by
  apply List.ext_getElem
  · simp [ids, Registry.size]
  · intro id first second
    rw [List.length_map] at second
    simp [ids, Registry.node?, List.getElem?_eq_getElem second]

theorem nodes_perm : (before.nodes.map (.renumber renumbering)).Perm after.nodes := by
  have perm : ((before.nodes.map (TypeNode.renumber renumbering)).map some).Perm
      (after.nodes.map some) := by
    have moved : (before.nodes.map (TypeNode.renumber renumbering)).map some =
        (before.ids.map renumbering).map after.node? := by
      calc (before.nodes.map (TypeNode.renumber renumbering)).map some
          = (before.nodes.map some).map (Option.map (TypeNode.renumber renumbering)) := by
            rw [List.map_map, List.map_map]
            rfl
        _ = before.ids.map fun id => (before.node? id).map (TypeNode.renumber renumbering) := by
            rw [← ids_node?, List.map_map]
            rfl
        _ = (before.ids.map renumbering).map after.node? := by
            rw [List.map_map]
            exact List.map_congr_left fun id _ => (renumbers.node? id).symm
    rw [moved, ← ids_node?]
    exact renumbers.ids_perm.map _
  have unwrapped := perm.filterMap id
  simpa using unwrapped

/-! ## Sorted types -/

theorem sortByName_map (ids : List TypeId) :
    after.sortByName (ids.map renumbering) = (before.sortByName ids).map renumbering := by
  rw [sortByName, sortByName, List.map_mergeSort]
  intro left _ right _
  rw [renumbers.nameOf, renumbers.nameOf]

end Renumbers

theorem sortByName_perm (ids : List TypeId) : (registry.sortByName ids).Perm ids :=
  List.mergeSort_perm _ _

theorem pairwise_sortByName (registry : Registry) (ids : List TypeId) :
    (registry.sortByName ids).Pairwise fun left right =>
      registry.nameOf left ≤ registry.nameOf right :=
  pairwise_mergeSort_by String.le_trans String.le_total registry.nameOf ids

/-- Sorting by name does not depend on the order before, where names tell types apart. -/
theorem sortByName_eq {ids others : List TypeId}
    (apart : ∀ left ∈ ids, ∀ right ∈ ids, registry.nameOf left = registry.nameOf right →
      left = right)
    (perm : ids.Perm others) : registry.sortByName ids = registry.sortByName others := by
  apply List.Perm.eq_of_pairwise _ (registry.pairwise_sortByName ids)
    (registry.pairwise_sortByName others)
  · exact ((sortByName_perm ids).trans perm).trans (sortByName_perm others).symm
  · intro left right leftInside rightInside first second
    have leftMember := (sortByName_perm ids).mem_iff.mp leftInside
    have rightMember := perm.mem_iff.mpr ((sortByName_perm others).mem_iff.mp rightInside)
    exact apart left leftMember right rightMember (String.le_antisymm first second)

theorem IsNamed.sortByName_eq (named : registry.IsNamed) {ids others : List TypeId}
    (registered : ∀ id ∈ ids, id < registry.size) (perm : ids.Perm others) :
    registry.sortByName ids = registry.sortByName others := by
  apply Registry.sortByName_eq _ perm
  intro left leftMember right rightMember
  exact named.nameOf_injective (registered left leftMember) (registered right rightMember)

namespace Renumbers

variable (renumbers : before.Renumbers renumbering after) (named : before.IsNamed)

include renumbers named

theorem sortedIds : after.sortedIds = before.sortedIds.map renumbering := by
  have registered : ∀ id ∈ before.ids.map renumbering, id < after.size := by
    intro id member
    exact List.mem_range.mp (renumbers.ids_perm.mem_iff.mp member)
  rw [Registry.sortedIds, Registry.sortedIds, ← renumbers.sortByName_map,
    (renumbers.named named).sortByName_eq registered renumbers.ids_perm]

end Renumbers

/-! ## Dependencies -/

theorem nodup_dependencies (registry : Registry) (id : TypeId) :
    (registry.dependencies id).Nodup := by
  unfold dependencies
  split
  · exact nodup_eraseDups _
  · exact List.nodup_nil

namespace Renumbers

variable (renumbers : before.Renumbers renumbering after)

include renumbers

theorem dependencies_perm (id : TypeId) :
    ((before.dependencies id).map renumbering).Perm (after.dependencies (renumbering id)) := by
  refine (List.perm_ext_iff_of_nodup ((before.nodup_dependencies id).map renumbering.injective)
    (after.nodup_dependencies _)).mpr fun target => ?_
  rw [List.mem_map, TypeGraph.mem_dependencies, renumbers.node?]
  simp only [TypeGraph.mem_dependencies, Option.map_eq_some_iff]
  constructor
  · intro holds
    rcases holds with ⟨old, ⟨node, found, member⟩, rfl⟩
    refine ⟨_, ⟨node, found, rfl⟩, ?_⟩
    rw [TypeNode.renumber, Shape.targets_rename]
    exact List.mem_map_of_mem member
  · intro holds
    rcases holds with ⟨_, ⟨node, found, rfl⟩, member⟩
    rw [TypeNode.renumber, Shape.targets_rename] at member
    rcases List.mem_map.mp member with ⟨old, inside, rfl⟩
    exact ⟨old, ⟨node, found, inside⟩, rfl⟩

end Renumbers

end Registry

/-! ## Graphs -/

/-- The second graph is the first one with other numbers. -/
structure TypeGraph.Renumbers (before : TypeGraph) (renumbering : Equiv.Perm TypeId)
    (after : TypeGraph) : Prop where
  vertices : after.vertices = before.vertices.map renumbering
  edges : ∀ id, after.edges (renumbering id) = (before.edges id).map renumbering

theorem Registry.Renumbers.graph {before after : Registry} {renumbering : Equiv.Perm TypeId}
    (renumbers : before.Renumbers renumbering after) (named : before.IsNamed)
    (closed : before.IsClosed) :
    (TypeGraph.ofRegistry before).Renumbers renumbering (.ofRegistry after) where
  vertices := renumbers.sortedIds named
  edges id := by
    have registered : ∀ target ∈ (before.dependencies id).map renumbering, target < after.size := by
      intro target member
      rcases List.mem_map.mp member with ⟨old, inside, rfl⟩
      have edge := (TypeGraph.refers_ofRegistry before id old).mpr inside
      have listed := TypeGraph.closed_ofRegistry closed id old edge
      exact renumbers.lt_size_iff.mpr ((TypeGraph.mem_vertices_ofRegistry before old).mp listed)
    simp only [TypeGraph.ofRegistry]
    rw [← renumbers.sortByName_map,
      (renumbers.named named).sortByName_eq registered (renumbers.dependencies_perm id)]

end ApiGraph
