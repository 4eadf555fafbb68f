import ApiGraph.Proofs.Dependency.Canonical
import ApiGraph.Proofs.Renumbering.Conversion
import ApiGraph.Proofs.Renumbering.Order
import Mathlib

namespace ApiGraph

/-! # The canonical order

The dependency order of a registry is known from a plain search: groups come in the order in which
that search is done with their first types, and the types of a group in the order in which it comes
to them. The numbers of the types have no part in it. -/

open TypeGraph

/-! ## Two lists of the same numbers -/

/-- What stands in the second list where the number stands in the first one. -/
def exchange (source target : List TypeId) (id : TypeId) : TypeId :=
  target[source.idxOf id]?.getD id

section Exchange

variable {source target : List TypeId} {id : TypeId}

theorem exchange_of_mem (length : source.length = target.length) (member : id ∈ source) :
    target[source.idxOf id]? = some (exchange source target id) := by
  have inside : source.idxOf id < target.length := length ▸ List.idxOf_lt_length_of_mem member
  rw [exchange, List.getElem?_eq_getElem inside]
  rfl

theorem exchange_exchange (nodup : target.Nodup) (perm : source.Perm target) (id : TypeId) :
    exchange target source (exchange source target id) = id := by
  by_cases member : id ∈ source
  · have inside := List.idxOf_lt_length_of_mem member
    rcases List.getElem?_eq_some_iff.mp (exchange_of_mem perm.length_eq member) with
      ⟨below, found⟩
    rw [← found, exchange, nodup.idxOf_getElem, List.getElem?_eq_getElem inside,
      List.getElem_idxOf]
    rfl
  · have beyond : id ∉ target := fun other => member (perm.mem_iff.mpr other)
    have kept : exchange source target id = id := by
      rw [exchange, List.idxOf_of_notMem member, perm.length_eq, List.getElem?_length]
      rfl
    rw [kept, exchange, List.idxOf_of_notMem beyond, ← perm.length_eq, List.getElem?_length]
    rfl

theorem map_exchange (nodup : source.Nodup) (length : source.length = target.length) :
    source.map (exchange source target) = target := by
  apply List.ext_getElem
  · rw [List.length_map, length]
  · intro position _ inside
    have below : position < source.length := length ▸ inside
    rw [List.getElem_map, exchange, nodup.idxOf_getElem, List.getElem?_eq_getElem inside]
    rfl

def exchanging (sourceNodup : source.Nodup) (targetNodup : target.Nodup)
    (perm : source.Perm target) : Equiv.Perm TypeId where
  toFun := exchange source target
  invFun := exchange target source
  left_inv := exchange_exchange targetNodup perm
  right_inv := exchange_exchange sourceNodup perm.symm

end Exchange

/-! ## Registries that are alike but for their numbers -/

namespace Registry

/-- Two registries have types of the same names, and these depend on types of the same names. -/
structure NamedAlike (before after : Registry) : Prop where
  distinct : before.names.Nodup
  names : before.names.Perm after.names
  dependencies : ∀ left < before.size, ∀ right < after.size,
    before.nameOf left = after.nameOf right → ∀ name,
      name ∈ (before.dependencies left).map before.nameOf ↔
        name ∈ (after.dependencies right).map after.nameOf

theorem nameOf_injective_of_nodup {registry : Registry} (distinct : registry.names.Nodup)
    {left right : TypeId} (leftRegistered : left < registry.size)
    (rightRegistered : right < registry.size)
    (same : registry.nameOf left = registry.nameOf right) : left = right := by
  rw [← registry.map_nameOf_ids] at distinct
  exact List.inj_on_of_nodup_map distinct (List.mem_range.mpr leftRegistered)
    (List.mem_range.mpr rightRegistered) same

theorem lt_size_of_mem_dependencies {registry : Registry} (closed : registry.IsClosed)
    {source target : TypeId} (member : target ∈ registry.dependencies source) :
    target < registry.size :=
  (mem_vertices_ofRegistry registry target).mp
    (closed_ofRegistry closed source target ((refers_ofRegistry registry source target).mpr member))

namespace NamedAlike

variable {before after : Registry} (alike : before.NamedAlike after)

include alike

theorem size_eq : before.size = after.size := by
  have length := alike.names.length_eq
  rwa [Registry.names, Registry.names, List.length_map, List.length_map] at length

theorem sortedIds_perm : before.sortedIds.Perm after.sortedIds := by
  have ids : before.ids = after.ids := congrArg List.range alike.size_eq
  rw [sortedIds, sortedIds, ← ids]
  exact (sortByName_perm _).trans (sortByName_perm _).symm

/-- The names in order are the same. -/
theorem map_nameOf_sortedIds :
    before.sortedIds.map before.nameOf = after.sortedIds.map after.nameOf := by
  have sorted (registry : Registry) :
      (registry.sortedIds.map registry.nameOf).Pairwise (· ≤ ·) :=
    List.pairwise_map.mpr (registry.pairwise_sortByName _)
  have perm (registry : Registry) :
      (registry.sortedIds.map registry.nameOf).Perm registry.names := by
    rw [← registry.map_nameOf_ids]
    exact (sortByName_perm _).map _
  apply List.Perm.eq_of_pairwise _ (sorted before) (sorted after)
  · exact ((perm before).trans alike.names).trans (perm after).symm
  · intro left right _ _ first second
    exact String.le_antisymm first second

/-- Types and those of the same names. -/
def renumbering : Equiv.Perm TypeId :=
  exchanging (nodup_vertices_ofRegistry before) (nodup_vertices_ofRegistry after)
    alike.sortedIds_perm

theorem map_sortedIds : before.sortedIds.map alike.renumbering = after.sortedIds :=
  map_exchange (nodup_vertices_ofRegistry before) alike.sortedIds_perm.length_eq

theorem nameOf {id : TypeId} (registered : id < before.size) :
    after.nameOf (alike.renumbering id) = before.nameOf id := by
  have member := (mem_sortedIds before id).mpr registered
  have found := exchange_of_mem alike.sortedIds_perm.length_eq member
  have own : before.sortedIds[before.sortedIds.idxOf id]? = some id :=
    List.getElem?_idxOf member
  have names := congrArg (·[before.sortedIds.idxOf id]?) alike.map_nameOf_sortedIds
  simp only [List.getElem?_map, own, found, Option.map_some, Option.some.injEq] at names
  exact names.symm

theorem registered {id : TypeId} (registered : id < before.size) :
    alike.renumbering id < after.size := by
  have member := List.mem_map_of_mem (f := alike.renumbering)
    ((mem_sortedIds before id).mpr registered)
  rw [alike.map_sortedIds] at member
  exact (mem_sortedIds after _).mp member

theorem distinct_after : after.names.Nodup := alike.names.nodup_iff.mp alike.distinct

theorem dependencies_perm (closed : before.IsClosed) (closedAfter : after.IsClosed) {id : TypeId}
    (registered : id < before.size) :
    ((before.dependencies id).map alike.renumbering).Perm
      (after.dependencies (alike.renumbering id)) := by
  have moved := alike.registered registered
  have same := alike.dependencies id registered _ moved (alike.nameOf registered).symm
  apply (List.perm_ext_iff_of_nodup
    ((before.nodup_dependencies id).map alike.renumbering.injective)
    (after.nodup_dependencies _)).mpr
  intro target
  constructor
  · intro member
    rcases List.mem_map.mp member with ⟨old, inside, rfl⟩
    have oldRegistered := lt_size_of_mem_dependencies closed inside
    rcases List.mem_map.mp ((same _).mp (List.mem_map_of_mem inside)) with ⟨found, held, name⟩
    rw [← alike.nameOf oldRegistered] at name
    rw [← nameOf_injective_of_nodup alike.distinct_after
      (lt_size_of_mem_dependencies closedAfter held) (alike.registered oldRegistered) name]
    exact held
  · intro member
    rcases List.mem_map.mp ((same _).mpr (List.mem_map_of_mem member)) with ⟨old, inside, name⟩
    have oldRegistered := lt_size_of_mem_dependencies closed inside
    rw [← alike.nameOf oldRegistered] at name
    rw [← nameOf_injective_of_nodup alike.distinct_after (alike.registered oldRegistered)
      (lt_size_of_mem_dependencies closedAfter member) name]
    exact List.mem_map_of_mem inside

theorem graph (closed : before.IsClosed) (closedAfter : after.IsClosed) :
    (ofRegistry before).Renumbers alike.renumbering (.ofRegistry after) where
  vertices := alike.map_sortedIds.symm
  edges id := by
    simp only [ofRegistry]
    by_cases registered : id < before.size
    · have perm := alike.dependencies_perm closed closedAfter registered
      have moved : after.sortByName ((before.dependencies id).map alike.renumbering) =
          (before.sortByName (before.dependencies id)).map alike.renumbering := by
        rw [sortByName, sortByName, List.map_mergeSort]
        intro left leftInside right rightInside
        rw [alike.nameOf (lt_size_of_mem_dependencies closed leftInside),
          alike.nameOf (lt_size_of_mem_dependencies closed rightInside)]
      rw [← moved]
      apply sortByName_eq _ perm.symm
      intro left leftInside right rightInside
      exact nameOf_injective_of_nodup alike.distinct_after
        (lt_size_of_mem_dependencies closedAfter leftInside)
        (lt_size_of_mem_dependencies closedAfter rightInside)
    · have beyond : ¬alike.renumbering id < after.size := by
        intro inside
        have member := (mem_sortedIds after _).mpr inside
        rw [← alike.map_sortedIds, List.mem_map_of_injective alike.renumbering.injective,
          mem_sortedIds] at member
        exact registered member
      have none (registry : Registry) {id : TypeId} (beyond : ¬id < registry.size) :
          registry.dependencies id = [] := by
        rw [Registry.dependencies, node?_eq_none_of_le (Nat.le_of_not_lt beyond)]
      rw [none before registered, none after beyond, sortByName, sortByName, List.mergeSort_nil,
        List.mergeSort_nil, List.map_nil]

theorem names_order (closed : before.IsClosed) (closedAfter : after.IsClosed) :
    before.dependencyOrder.order.map before.nameOf =
      after.dependencyOrder.order.map after.nameOf := by
  have order : after.dependencyOrder.order =
      before.dependencyOrder.order.map alike.renumbering :=
    congrArg DependencyOrder.order (alike.graph closed closedAfter).dependencyOrder
  rw [order, List.map_map]
  apply List.map_congr_left
  intro id member
  have listed := ((before.dependencyOrder_topological closed).1.mem_iff).mp member
  exact (alike.nameOf (List.mem_range.mp listed)).symm

end NamedAlike

/-- The plain search comes to every type and is done with every type once. Groups of types that reach
each other are emitted in the order in which it is done with their first types, the types of a group
in the order in which it comes to them. Where no two types reach each other the order is the one in
which it is done with them. In all of this only the names of types count. -/
theorem dependencyOrder_canonical (registry : Registry) (closed : registry.IsClosed) :
    (ofRegistry registry).plainSearch.discovered.Perm registry.ids ∧
      (ofRegistry registry).plainSearch.finished.Perm registry.ids ∧
      (∃ groups : List (List TypeId), registry.dependencyOrder.order = groups.flatten ∧
        (∀ group ∈ groups, group ≠ [] ∧
          (∀ member ∈ group, ∀ other, other ∈ group ↔ (ofRegistry registry).Mutual member other) ∧
          group.Pairwise fun left right =>
            (ofRegistry registry).plainSearch.discovered.idxOf left <
              (ofRegistry registry).plainSearch.discovered.idxOf right) ∧
        groups.Pairwise fun earlier later => ∀ first ∈ earlier.head?, ∀ other ∈ later.head?,
          (ofRegistry registry).plainSearch.finished.idxOf first <
            (ofRegistry registry).plainSearch.finished.idxOf other) ∧
      ((∀ left right, (ofRegistry registry).Mutual left right → left = right) →
        registry.dependencyOrder.order = (ofRegistry registry).plainSearch.finished) ∧
      ∀ other : Registry, other.IsClosed → registry.NamedAlike other →
        registry.dependencyOrder.order.map registry.nameOf =
          other.dependencyOrder.order.map other.nameOf := by
  have graphClosed := closed_ofRegistry closed
  have nodup := nodup_vertices_ofRegistry registry
  rcases plainSearch_spec graphClosed nodup with ⟨discovered, groups, order, sorted, heads⟩
  have finished := (ofRegistry registry).plainSearch_finished.trans discovered
  have ids := perm_vertices_ofRegistry registry
  refine ⟨discovered.trans ids, finished.trans ids, ⟨groups, order, ?_, ?_⟩, ?_, ?_⟩
  · intro group member
    have isGroup := (sorted group member).1
    exact ⟨isGroup.nonempty, isGroup.mem_iff,
      pairwise_idxOf_of_sublist (discovered.nodup_iff.mpr nodup) (sorted group member).2⟩
  · exact pairwise_finished (finished.nodup_iff.mpr nodup) heads
  · exact order_eq_finished graphClosed nodup
  · intro other closedOther alike
    exact alike.names_order closed closedOther

/-- The tangle with its types registered the other way round. -/
def turnedTangle : Registry where
  nodes := [
    { name := "C" },
    { name := "B", shape := .object [⟨"a", none, .named 2, true⟩, ⟨"c", none, .named 0, false⟩] },
    { name := "A", shape := .object [⟨"self", none, .named 2, true⟩, ⟨"b", none, .named 1, true⟩] }]
  bindings := [("C", 0), ("B", 1), ("A", 2)]

theorem namedAlike_turnedTangle : tangle.NamedAlike turnedTangle where
  distinct := by decide
  names := by decide
  dependencies := by
    have own : [0, 1, 2].map (fun id =>
        (tangle.nameOf id, (tangle.dependencies id).map tangle.nameOf)) =
          [("A", ["A", "B"]), ("B", ["A", "C"]), ("C", [])] := by cbv
    have turned : [0, 1, 2].map (fun id =>
        (turnedTangle.nameOf id, (turnedTangle.dependencies id).map turnedTangle.nameOf)) =
          [("C", []), ("B", ["C", "A"]), ("A", ["B", "A"])] := by cbv
    simp only [List.map_cons, List.map_nil, List.cons.injEq, Prod.mk.injEq, and_true] at own turned
    rcases own with ⟨⟨nameA, dependenciesA⟩, ⟨nameB, dependenciesB⟩, nameC, dependenciesC⟩
    rcases turned with ⟨⟨nameC', dependenciesC'⟩, ⟨nameB', dependenciesB'⟩, nameA', dependenciesA'⟩
    intro left leftInside right rightInside same name
    change left < 3 at leftInside
    change right < 3 at rightInside
    interval_cases left <;> interval_cases right <;> simp_all [or_comm]

theorem dependencyOrder_canonical_tangle :
    tangle.IsClosed ∧ turnedTangle.IsClosed ∧
      tangle.dependencyOrder.order.map tangle.nameOf =
        turnedTangle.dependencyOrder.order.map turnedTangle.nameOf ∧
      (ofRegistry tangle).plainSearch.finished.Perm [0, 1, 2] := by
  have closed : tangle.IsClosed := by
    unfold IsClosed
    decide
  have closedTurned : turnedTangle.IsClosed := by
    unfold IsClosed
    decide
  have canonical := dependencyOrder_canonical tangle closed
  exact ⟨closed, closedTurned, canonical.2.2.2.2 turnedTangle closedTurned namedAlike_turnedTangle,
    canonical.2.1⟩

end Registry

end ApiGraph
