import ApiGraph.Proofs.Types
import ApiGraph.Registry
import Mathlib.Data.List.Nodup

namespace ApiGraph

/-! # The growth of a registry -/

namespace Registry

/-- All types that registered types refer to are registered. -/
def IsClosed (registry : Registry) : Prop :=
  ∀ node ∈ registry.nodes, ∀ target ∈ node.shape.targets, target < registry.size

variable {registry before middle after : Registry} {name : String} {id : TypeId} {node : TypeNode}

theorem lt_size_of_node? (found : registry.node? id = some node) : id < registry.size :=
  (List.getElem?_eq_some_iff.mp found).1

theorem nameOf_eq (found : registry.node? id = some node) : registry.nameOf id = node.name := by
  simp only [nameOf, found]

theorem nodeNamed?_eq (bound : registry.lookup? name = some id)
    (found : registry.node? id = some node) : registry.nodeNamed? name = some node := by
  rw [nodeNamed?, bound, Option.bind_some, found]

/-! ## Registries that only have more

What is in a registry keeps its place: types, names and open types are added at the end. -/

structure Extends (before after : Registry) : Prop where
  nodes : before.nodes <+: after.nodes
  bindings : before.bindings <+: after.bindings
  pending : before.pending <+: after.pending

namespace Extends

theorem refl (registry : Registry) : Extends registry registry :=
  ⟨List.prefix_refl _, List.prefix_refl _, List.prefix_refl _⟩

theorem trans (first : Extends before middle) (second : Extends middle after) :
    Extends before after :=
  ⟨first.nodes.trans second.nodes, first.bindings.trans second.bindings,
    first.pending.trans second.pending⟩

theorem size_le (more : Extends before after) : before.size ≤ after.size :=
  more.nodes.length_le

theorem node? (more : Extends before after) (found : before.node? id = some node) :
    after.node? id = some node := by
  rcases more.nodes with ⟨added, equal⟩
  rw [Registry.node?, ← equal, List.getElem?_append_left (lt_size_of_node? found)]
  exact found

theorem lookup? (more : Extends before after) (bound : before.lookup? name = some id) :
    after.lookup? name = some id := by
  rcases more.bindings with ⟨added, equal⟩
  rw [Registry.lookup?, ← equal, Entries.value?_append, ← Registry.lookup?, bound]
  rfl

theorem nameOf (more : Extends before after) (registered : id < before.size) :
    after.nameOf id = before.nameOf id := by
  have found : before.node? id = some before.nodes[id] := List.getElem?_eq_getElem registered
  rw [nameOf_eq found, nameOf_eq (more.node? found)]

end Extends

/-! ## What the changes do -/

variable {other : String} {target : TypeId} {description : Option String} {shape : Shape TypeId}

theorem lookup?_eq_none_iff : registry.lookup? name = none ↔ registry.isBound name = false := by
  rw [isBound, Option.isSome_eq_false_iff, Option.isNone_iff_eq_none]

theorem isBound_eq_false (unbound : registry.lookup? name = none) :
    registry.isBound name = false :=
  lookup?_eq_none_iff.mp unbound

theorem reserve_of_bound (bound : registry.lookup? name = some id) :
    registry.reserve name = (id, registry) := by
  simp only [reserve, bound]

theorem reserve_of_fresh (fresh : registry.lookup? name = none) :
    registry.reserve name = (registry.size, {
      nodes := registry.nodes ++ [{ name := name }]
      bindings := registry.bindings ++ [(name, registry.size)]
      pending := registry.pending ++ [registry.size] }) := by
  simp only [reserve, fresh]

theorem size_reserve (fresh : registry.lookup? name = none) :
    (registry.reserve name).2.size = registry.size + 1 := by
  rw [reserve_of_fresh fresh]
  exact List.length_append

theorem extends_reserve (registry : Registry) (name : String) :
    registry.Extends (registry.reserve name).2 := by
  unfold reserve
  split
  · exact .refl registry
  · exact ⟨List.prefix_append _ _, List.prefix_append _ _, List.prefix_append _ _⟩

theorem node?_reserve (fresh : registry.lookup? name = none) (id : TypeId) :
    (registry.reserve name).2.node? id =
      if id = registry.size then some { name := name } else registry.node? id := by
  rw [reserve_of_fresh fresh]
  by_cases equal : id = registry.size
  · rw [if_pos equal, equal]
    exact List.getElem?_concat_length
  · rw [if_neg equal]
    by_cases inside : id < registry.size
    · exact List.getElem?_append_left inside
    · have beyond : registry.size < id :=
        Nat.lt_of_le_of_ne (Nat.le_of_not_lt inside) (Ne.symm equal)
      have short : (registry.nodes ++ [TypeNode.mk name none .unknown none]).length ≤ id := by
        rw [List.length_append]
        exact beyond
      rw [node?, node?, List.getElem?_eq_none short, List.getElem?_eq_none (Nat.le_of_lt beyond)]

theorem value?_bindings_concat (fresh : registry.lookup? name = none) :
    Entries.value? (registry.bindings ++ [(name, id)]) other =
      if other = name then some id else registry.lookup? other := by
  rw [Entries.value?_append]
  by_cases equal : other = name
  · rw [if_pos equal, equal, ← lookup?, fresh]
    simp [Entries.value?]
  · have different : name ≠ other := Ne.symm equal
    simp [Entries.value?, lookup?, equal, different]

theorem lookup?_reserve (fresh : registry.lookup? name = none) :
    (registry.reserve name).2.lookup? other =
      if other = name then some registry.size else registry.lookup? other := by
  rw [reserve_of_fresh fresh]
  exact value?_bindings_concat fresh

theorem bindAlias_of_bound (bound : registry.lookup? name ≠ none) :
    registry.bindAlias name id = (false, registry) := by
  have held : registry.isBound name := Option.isSome_iff_ne_none.mpr bound
  simp only [bindAlias, held, if_true]

theorem bindAlias_of_fresh (fresh : registry.lookup? name = none) :
    registry.bindAlias name id =
      (true, { registry with bindings := registry.bindings ++ [(name, id)] }) := by
  simp only [bindAlias, isBound_eq_false fresh, Bool.false_eq_true, if_false]

theorem extends_bindAlias (registry : Registry) (name : String) (id : TypeId) :
    registry.Extends (registry.bindAlias name id).2 := by
  unfold bindAlias
  split
  · exact .refl registry
  · exact ⟨List.prefix_refl _, List.prefix_append _ _, List.prefix_refl _⟩

@[simp] theorem size_complete :
    (registry.complete id description shape).size = registry.size := by
  simp [complete, size]

theorem node?_complete :
    (registry.complete id description shape).node? target =
      if target = id then
        (registry.node? target).map fun node =>
          { node with description := description, shape := shape }
      else registry.node? target := by
  simp only [complete, node?, List.getElem?_modify]
  by_cases equal : target = id
  · simp [equal]
  · have different : id ≠ target := Ne.symm equal
    simp [equal, different]

@[simp] theorem nameOf_complete :
    (registry.complete id description shape).nameOf target = registry.nameOf target := by
  rw [nameOf, nameOf, node?_complete]
  by_cases equal : target = id
  · rw [if_pos equal]
    cases registry.node? target <;> rfl
  · rw [if_neg equal]

theorem filter_pending (below : ∀ id ∈ registry.pending, id < registry.size) :
    registry.pending.filter (· != registry.size) = registry.pending := by
  apply List.filter_eq_self.mpr
  intro id member
  simpa using Nat.ne_of_lt (below id member)

/-- A type that is registered and then completed is all that its completion adds, whatever else is
registered in between. -/
theorem Extends.complete (fresh : before.lookup? name = none)
    (below : ∀ id ∈ before.pending, id < before.size)
    (more : (before.reserve name).2.Extends after)
    (settled : after.pending = (before.reserve name).2.pending) :
    before.Extends (after.complete before.size description shape) ∧
      (after.complete before.size description shape).pending = before.pending := by
  have grown := (extends_reserve before name).trans more
  have pending : (after.complete before.size description shape).pending = before.pending := by
    rw [Registry.complete, settled, reserve_of_fresh fresh, List.filter_append,
      filter_pending below]
    simp
  have nodes : before.nodes <+: (after.complete before.size description shape).nodes := by
    rcases grown.nodes with ⟨added, equal⟩
    apply List.prefix_iff_getElem?.mpr
    intro index inside
    have different : before.size ≠ index := (Nat.ne_of_lt inside).symm
    rw [Registry.complete, List.getElem?_modify_ne _ _ different, ← equal,
      List.getElem?_append_left inside, List.getElem?_eq_getElem inside]
  exact ⟨⟨nodes, grown.bindings, pending ▸ List.prefix_refl _⟩, pending⟩

/-! ## The names of types -/

/-- The names that the types were registered under. -/
def names (registry : Registry) : List String := registry.nodes.map TypeNode.name

theorem mem_names_iff_exists :
    name ∈ registry.names ↔ ∃ id node, registry.node? id = some node ∧ node.name = name := by
  constructor
  · intro member
    rcases List.mem_map.mp member with ⟨node, member, named⟩
    rcases List.mem_iff_getElem?.mp member with ⟨id, found⟩
    exact ⟨id, node, found, named⟩
  · intro listed
    rcases listed with ⟨id, node, found, rfl⟩
    exact List.mem_map_of_mem (List.mem_of_getElem? found)

theorem map_nameOf_ids (registry : Registry) :
    registry.ids.map registry.nameOf = registry.names := by
  apply List.ext_getElem
  · simp [ids, size, names]
  · intro id inside _
    rw [List.length_map, ids, List.length_range] at inside
    have found : registry.node? id = some registry.nodes[id] := List.getElem?_eq_getElem inside
    simp only [ids, names, List.getElem_map, List.getElem_range, nameOf_eq found]
    rfl

theorem nodup_names_concat (distinct : (Entries.names registry.bindings).Nodup)
    (fresh : registry.lookup? name = none) (id : TypeId) :
    (Entries.names (registry.bindings ++ [(name, id)])).Nodup := by
  have absent : name ∉ Entries.names registry.bindings := by
    rw [← Entries.value?_isSome_iff, ← lookup?, fresh]
    exact Bool.false_ne_true
  rw [Entries.names, List.map_append, List.map_singleton, ← List.concat_eq_append]
  exact distinct.concat absent

/-- The aliases are the names that are bound to a type of another name. -/
theorem mem_aliases_iff (distinct : (Entries.names registry.bindings).Nodup) :
    (name, id) ∈ registry.aliases ↔ registry.lookup? name = some id ∧ registry.nameOf id ≠ name := by
  rw [aliases, List.mem_filter, bne_iff_ne]
  exact and_congr_left'
    ⟨Entries.value?_eq_some_of_mem distinct, Entries.mem_of_value?_eq_some⟩

/-- Every name is bound once and to a registered type, and a type is bound under its own name. -/
structure Indexed (registry : Registry) : Prop where
  distinct : (Entries.names registry.bindings).Nodup
  registered : ∀ {name id}, registry.lookup? name = some id → id < registry.size
  named : ∀ {id node}, registry.node? id = some node → registry.lookup? node.name = some id

namespace Indexed

variable (indexed : registry.Indexed)

include indexed

theorem nodup_names : registry.names.Nodup := by
  rw [List.nodup_iff_getElem?_ne_getElem?]
  intro first second before inside equal
  rw [names, List.length_map] at inside
  simp only [names, List.getElem?_map] at equal
  have firstFound : registry.node? first = some registry.nodes[first] :=
    List.getElem?_eq_getElem (Nat.lt_trans before inside)
  have secondFound : registry.node? second = some registry.nodes[second] :=
    List.getElem?_eq_getElem inside
  have bound := indexed.named firstFound
  rw [Registry.node?] at firstFound secondFound
  rw [firstFound, secondFound, Option.map_some, Option.map_some] at equal
  rw [Option.some.inj equal, indexed.named secondFound] at bound
  exact Nat.ne_of_lt before (Option.some.inj bound).symm

theorem nameOf_eq_iff (bound : registry.lookup? name = some id) :
    registry.nameOf id = name ↔ name ∈ registry.names := by
  rw [mem_names_iff_exists]
  constructor
  · intro own
    have inside : id < registry.nodes.length := indexed.registered bound
    have found : registry.node? id = some registry.nodes[id] := List.getElem?_eq_getElem inside
    exact ⟨id, _, found, (nameOf_eq found).symm.trans own⟩
  · intro listed
    rcases listed with ⟨other, node, found, rfl⟩
    have same := (indexed.named found).symm.trans bound
    exact Option.some.inj same ▸ nameOf_eq found

/-- A name is the name of a type or another name for one. -/
theorem length_bindings :
    registry.bindings.length = registry.size + registry.aliases.length := by
  have own : (Entries.names (registry.bindings.filter fun entry =>
      registry.nameOf entry.2 == entry.1)).Perm registry.names := by
    refine (List.perm_ext_iff_of_nodup ?_ indexed.nodup_names).mpr fun name => ?_
    · exact indexed.distinct.sublist (List.filter_sublist.map _)
    rw [Entries.names, List.mem_map]
    constructor
    · intro listed
      rcases listed with ⟨⟨other, id⟩, member, rfl⟩
      rcases List.mem_filter.mp member with ⟨member, same⟩
      have bound := Entries.value?_eq_some_of_mem indexed.distinct member
      exact (indexed.nameOf_eq_iff bound).mp (beq_iff_eq.mp same)
    · intro listed
      rcases mem_names_iff_exists.mp listed with ⟨id, node, found, rfl⟩
      refine ⟨(node.name, id), List.mem_filter.mpr ⟨?_, ?_⟩, rfl⟩
      · exact Entries.mem_of_value?_eq_some (indexed.named found)
      · simp [nameOf_eq found]
  have length := own.length_eq
  rw [Entries.names, List.length_map, Registry.names, List.length_map] at length
  rw [size, ← length]
  exact registry.bindings.length_eq_length_filter_add fun entry =>
    registry.nameOf entry.2 == entry.1

end Indexed

/-! ## What keeps names in place -/

theorem nameOf_eq_getD (registry : Registry) (id : TypeId) :
    registry.nameOf id = (registry.names[id]?).getD "" := by
  rw [names, List.getElem?_map, nameOf, node?]
  cases registry.nodes[id]? <;> rfl

theorem length_names (registry : Registry) : registry.names.length = registry.size :=
  List.length_map _

theorem names_complete :
    (registry.complete id description shape).names = registry.names := by
  apply List.ext_getElem?
  intro position
  simp only [Registry.names, Registry.complete, List.getElem?_map, List.getElem?_modify]
  cases registry.nodes[position]? with
  | none => rfl
  | some node => by_cases equal : id = position <;> simp [equal]

theorem indexed_empty : Indexed .empty where
  distinct := List.nodup_nil
  registered bound := by cases bound
  named found := by cases found

namespace Indexed

/-- Types may be changed in any way that leaves them their names. -/
theorem of_names_eq (indexed : before.Indexed) (names : after.names = before.names)
    (bindings : after.bindings = before.bindings) : after.Indexed where
  distinct := bindings ▸ indexed.distinct
  registered bound := by
    rw [← length_names, names, length_names]
    rw [Registry.lookup?, bindings] at bound
    exact indexed.registered bound
  named {id node} found := by
    have named : before.names[id]? = some node.name := by
      rw [← names, Registry.names, List.getElem?_map, ← Registry.node?, found, Option.map_some]
    rw [Registry.names, List.getElem?_map] at named
    rcases Option.map_eq_some_iff.mp named with ⟨old, held, same⟩
    rw [Registry.lookup?, bindings, ← same]
    exact indexed.named held

theorem reserve (indexed : registry.Indexed) (name : String) :
    (registry.reserve name).2.Indexed := by
  cases held : registry.lookup? name with
  | some id =>
      rw [reserve_of_bound held]
      exact indexed
  | none =>
      have grown := registry.extends_reserve name
      refine ⟨?_, ?_, ?_⟩
      · rw [reserve_of_fresh held]
        exact nodup_names_concat indexed.distinct held registry.size
      · intro other id bound
        rw [lookup?_reserve held] at bound
        split at bound
        next =>
          cases bound
          rw [size_reserve held]
          exact Nat.lt_succ_self _
        next => exact Nat.lt_of_lt_of_le (indexed.registered bound) grown.size_le
      · intro id node found
        rw [node?_reserve held] at found
        split at found
        next equal =>
          cases found
          rw [lookup?_reserve held, if_pos rfl, equal]
        next => exact grown.lookup? (indexed.named found)

theorem bindAlias (indexed : registry.Indexed) (name : String) (registered : id < registry.size) :
    (registry.bindAlias name id).2.Indexed := by
  cases held : registry.lookup? name with
  | some bound =>
      rw [bindAlias_of_bound (by simp [held])]
      exact indexed
  | none =>
      have grown := registry.extends_bindAlias name id
      rw [bindAlias_of_fresh held] at grown ⊢
      refine ⟨nodup_names_concat indexed.distinct held id, ?_, ?_⟩
      · intro other target bound
        rw [Registry.lookup?, value?_bindings_concat held] at bound
        split at bound
        next =>
          cases bound
          exact registered
        next => exact indexed.registered bound
      · intro target node found
        exact grown.lookup? (indexed.named found)

end Indexed

end Registry

end ApiGraph
