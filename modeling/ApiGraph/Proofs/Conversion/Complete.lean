import ApiGraph.Proofs.Conversion.Operation
import ApiGraph.Proofs.Conversion.Tally

namespace ApiGraph

/-! # Registries of all components

After the components have been converted nothing is left to register. What is converted from then on
finds its named types, and leaves nothing behind but what it counts. -/

open Conversion Registry

/-- Every component is registered and no type is open. -/
structure Registry.Complete (registry : Registry) (document : Document) : Prop where
  faithful : registry.Faithful document
  settled : registry.pending = []
  bound : ∀ name ∈ Entries.names document.components.schemas, ∃ id, registry.lookup? name = some id

/-- Every component is registered, though types may be open where an earlier walk was broken off. -/
structure Registry.Covers (registry : Registry) (document : Document) : Prop where
  faithful : registry.Faithful document
  bound : ∀ name ∈ Entries.names document.components.schemas, ∃ id, registry.lookup? name = some id

theorem Registry.Complete.covers {registry : Registry} {document : Document}
    (complete : registry.Complete document) : registry.Covers document :=
  ⟨complete.faithful, complete.bound⟩

variable {document : Document} {before after registry : Registry} {progress : Progress}

theorem complete_convertComponents
    (converted : (convertComponents document {}).value = .ok ()) :
    (convertComponents document {}).state.registry.Complete document where
  faithful := (yields_convertComponents document).faithful
  settled := (yields_convertComponents document).settled converted
  bound := (yields_convertComponents document).means converted

namespace Registry.Covers

/-- A further type would have the name of a component, and all of these are taken. -/
theorem nodes_eq (covers : before.Covers document) (grown : before.Extends after)
    (faithful : after.Faithful document) : after.nodes = before.nodes := by
  suffices size : after.size ≤ before.size from
    (grown.nodes.eq_of_length (Nat.le_antisymm grown.size_le size)).symm
  refine Nat.le_of_not_lt ?_
  intro more
  have found : after.node? before.size = some after.nodes[before.size] :=
    List.getElem?_eq_getElem more
  rcases faithful.declared found with ⟨schema, declared⟩
  rcases covers.bound _ (Entries.mem_names_of_value?_eq_some declared) with ⟨id, bound⟩
  rcases covers.faithful.leads bound with ⟨node, _, registered, _⟩
  have same := (faithful.named found).symm.trans (grown.lookup? bound)
  exact Nat.lt_irrefl _ ((Option.some.inj same).symm ▸ lt_size_of_node? registered)

/-- So would a further name. -/
theorem bindings_eq (covers : before.Covers document) (grown : before.Extends after)
    (faithful : after.Faithful document) : after.bindings = before.bindings := by
  rcases grown.bindings with ⟨added, equal⟩
  cases added with
  | nil => rw [← equal, List.append_nil]
  | cons entry added =>
      have distinct := faithful.distinct
      rw [← equal, Entries.names, List.map_append, List.nodup_append] at distinct
      have member : entry.1 ∈ Entries.names after.bindings := by
        rw [← equal]
        simp [Entries.names]
      rcases Option.isSome_iff_exists.mp ((after.isBound_iff _).mpr member) with ⟨id, bound⟩
      rcases covers.bound _ (faithful.mem_names_of_bound bound) with ⟨old, held⟩
      have inside := Entries.mem_names_of_value?_eq_some held
      exact absurd rfl (distinct.2.2 _ inside entry.1 (by simp))

theorem eq_of_extends (covers : before.Covers document) (grown : before.Extends after)
    (faithful : after.Faithful document) (settled : after.pending = before.pending) :
    after = before := by
  have nodes := covers.nodes_eq grown faithful
  have bindings := covers.bindings_eq grown faithful
  cases before
  cases after
  cases nodes
  cases bindings
  cases settled
  rfl

end Registry.Covers

namespace Registry.Complete

/-- The names of the types are those of the components that are definitions of their own. -/
theorem mem_names_iff (complete : registry.Complete document) {name : String} :
    name ∈ registry.names ↔ ∃ schema, document.schema? name = some (.inline schema) := by
  rw [mem_names_iff_exists]
  constructor
  · intro listed
    rcases listed with ⟨id, node, found, rfl⟩
    exact complete.faithful.declared found
  · intro holds
    rcases holds with ⟨schema, declared⟩
    rcases complete.bound name (Entries.mem_names_of_value?_eq_some declared) with ⟨id, bound⟩
    rcases complete.faithful.leads bound with ⟨node, _, found, leads⟩
    exact ⟨id, node, found, (leads.last_eq declared).1.symm⟩

theorem mem_bound_iff (complete : registry.Complete document) {name : String} :
    name ∈ Entries.names registry.bindings ↔ name ∈ Entries.names document.components.schemas := by
  rw [← Registry.isBound_iff]
  constructor
  · intro bound
    rcases Option.isSome_iff_exists.mp bound with ⟨id, bound⟩
    exact complete.faithful.mem_names_of_bound bound
  · intro member
    rcases complete.bound name member with ⟨id, bound⟩
    exact Option.isSome_iff_exists.mpr ⟨id, bound⟩

end Registry.Complete

theorem Registry.mem_names_aliases (distinct : (Entries.names registry.bindings).Nodup)
    {name : String} : name ∈ Entries.names registry.aliases ↔
      ∃ id, registry.lookup? name = some id ∧ registry.nameOf id ≠ name := by
  simp only [← mem_aliases_iff distinct, Entries.names, List.mem_map, Prod.exists, exists_and_right,
    exists_eq_right]

/-- The aliases are the components that are references. -/
theorem Registry.Complete.mem_aliases_iff (complete : registry.Complete document) {name : String} :
    name ∈ Entries.names registry.aliases ↔
      ∃ path, document.schema? name = some (.reference path) := by
  rw [mem_names_aliases complete.faithful.distinct]
  constructor
  · intro holds
    rcases holds with ⟨id, bound, different⟩
    rcases complete.faithful.leads bound with ⟨node, _, found, leads⟩
    cases leads with
    | here => exact absurd (nameOf_eq found) different
    | onward declared => exact ⟨_, declared⟩
  · intro declared
    rcases declared with ⟨path, declared⟩
    rcases complete.bound name (Entries.mem_names_of_value?_eq_some declared) with ⟨id, bound⟩
    rcases complete.faithful.leads bound with ⟨node, schema, found, leads⟩
    refine ⟨id, bound, ?_⟩
    rw [nameOf_eq found]
    intro same
    have concrete : document.schema? node.name = some (.inline schema) := leads.declared
    rw [same, declared] at concrete
    cases concrete

/-- A schema that is converted last finds all that it refers to. -/
theorem convertSchema_of_complete (complete : progress.registry.Complete document)
    {slot : SchemaSlot} {location : String} {type : TypeRef TypeId}
    (success : (convertSchema document progress slot location).value = .ok type) :
    HoldsSlot document slot progress.registry type ∧
      (convertSchema document progress slot location).state =
        ⟨progress.registry, progress.statistics.charge 0 0 (slotTally slot location)⟩ := by
  have yields := yields_convertSchema document progress slot location complete.faithful
  have same := complete.covers.eq_of_extends yields.grows yields.faithful (yields.settled success)
  rcases accounts_convertSchema document progress slot location type success with
    ⟨added, aliases, total, charges, _, own⟩
  have noTypes : added = [] := by
    have names := charges.names
    rw [same] at names
    exact List.self_eq_append_right.mp names
  have noAliases : aliases = 0 := by
    have bindings := charges.bindings
    rw [same, noTypes, List.length_nil] at bindings
    omega
  have statistics := charges.statistics
  rw [noTypes, noAliases, own noTypes, List.length_nil] at statistics
  refine ⟨same ▸ yields.means success, ?_⟩
  rcases converted : (convertSchema document progress slot location).state with ⟨registry, counted⟩
  rw [converted] at same statistics
  simp only at same statistics
  rw [same, statistics]

end ApiGraph
