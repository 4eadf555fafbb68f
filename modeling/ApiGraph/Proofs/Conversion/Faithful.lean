import ApiGraph.Proofs.Conversion.Translation
import ApiGraph.Proofs.Registry

namespace ApiGraph

/-! # Registries that mirror a document

At any moment of a conversion the registry holds a part of what the translation of the document
says. Its names lead to the types that the document says they lead to, and a type is either still
open, with nothing known about it but its name, or has the translation of its definition. References
to an open type are right all the same, since a reference is translated to a name. -/

/-- A node is what its own definition is translated to. -/
structure TypeNode.Translates (document : Document) (registry : Registry) (node : TypeNode)
    (schema : Schema) : Prop where
  declared : document.schema? node.name = some (.inline schema)
  description : node.description = schema.summary?
  registered : ∀ target ∈ node.shape.targets, target < registry.size
  translated : document.translate schema = some (node.shape.rename registry.nameOf)
  unowned : node.module = none

structure Registry.Faithful (registry : Registry) (document : Document) : Prop where
  distinct : (Entries.names registry.bindings).Nodup
  leads : ∀ {name id}, registry.lookup? name = some id →
    ∃ node schema, registry.node? id = some node ∧ document.LeadsTo name node.name schema
  named : ∀ {id node}, registry.node? id = some node → registry.lookup? node.name = some id
  unmade : ∀ {id}, id ∈ registry.pending → ∃ name, registry.node? id = some { name := name }
  made : ∀ {id node}, registry.node? id = some node → id ∉ registry.pending →
    ∃ schema, node.Translates document registry schema

variable {document : Document} {before after registry : Registry} {node : TypeNode}
  {schema : Schema} {name : String} {id : TypeId} {shape : Shape TypeId}

theorem TypeNode.Translates.keep (translates : node.Translates document before schema)
    (grown : before.size ≤ after.size)
    (same : ∀ id < before.size, after.nameOf id = before.nameOf id) :
    node.Translates document after schema where
  declared := translates.declared
  description := translates.description
  registered target member := Nat.lt_of_lt_of_le (translates.registered target member) grown
  translated := by
    have renamed : node.shape.rename after.nameOf = node.shape.rename before.nameOf := by
      apply node.shape.rename_congr
      intro target member
      exact same target (translates.registered target member)
    rw [renamed]
    exact translates.translated
  unowned := translates.unowned

namespace Registry

theorem faithful_empty (document : Document) : Registry.empty.Faithful document where
  distinct := List.nodup_nil
  leads bound := by cases bound
  named found := by cases found
  unmade member := by cases member
  made found := by cases found

namespace Faithful

/-! ## Consequences -/

theorem declared (faithful : registry.Faithful document) (found : registry.node? id = some node) :
    ∃ schema, document.schema? node.name = some (.inline schema) := by
  rcases faithful.leads (faithful.named found) with ⟨other, schema, same, leads⟩
  rw [found] at same
  cases same
  exact ⟨schema, leads.declared⟩

theorem indexed (faithful : registry.Faithful document) : registry.Indexed where
  distinct := faithful.distinct
  registered bound := by
    rcases faithful.leads bound with ⟨node, _, found, _⟩
    exact lt_size_of_node? found
  named := faithful.named

theorem lt_size_of_mem_pending (faithful : registry.Faithful document)
    (member : id ∈ registry.pending) : id < registry.size := by
  rcases faithful.unmade member with ⟨name, found⟩
  exact lt_size_of_node? found

theorem unmade_or_made (faithful : registry.Faithful document)
    (found : registry.node? id = some node) :
    node = { name := node.name } ∨ ∃ schema, node.Translates document registry schema := by
  by_cases member : id ∈ registry.pending
  · rcases faithful.unmade member with ⟨name, placeholder⟩
    rw [found] at placeholder
    cases placeholder
    exact .inl rfl
  · exact .inr (faithful.made found member)

theorem closed (faithful : registry.Faithful document) : registry.IsClosed := by
  intro node member target inside
  rcases List.mem_iff_getElem?.mp member with ⟨id, found⟩
  rcases faithful.unmade_or_made found with placeholder | ⟨schema, translates⟩
  · rw [placeholder] at inside
    cases inside
  · exact translates.registered target inside

theorem unowned (faithful : registry.Faithful document) (found : registry.node? id = some node) :
    node.module = none := by
  rcases faithful.unmade_or_made found with placeholder | ⟨schema, translates⟩
  · rw [placeholder]
  · exact translates.unowned

/-! ## Changes -/

/-- Registering a component that is a definition of its own. -/
theorem reserve (faithful : registry.Faithful document) (fresh : registry.lookup? name = none)
    (declared : document.schema? name = some (.inline schema)) :
    (registry.reserve name).2.Faithful document where
  distinct := (faithful.indexed.reserve name).distinct
  leads := by
    intro other id bound
    rw [lookup?_reserve fresh] at bound
    split at bound
    next equal =>
      cases bound
      refine ⟨{ name := name }, schema, ?_, ?_⟩
      · rw [node?_reserve fresh, if_pos rfl]
      · rw [equal]
        exact .here declared
    next =>
      rcases faithful.leads bound with ⟨node, schema, found, leads⟩
      exact ⟨node, schema, (extends_reserve registry name).node? found, leads⟩
  named := (faithful.indexed.reserve name).named
  unmade := by
    intro id member
    rw [reserve_of_fresh fresh] at member
    rcases List.mem_append.mp member with member | member
    · rcases faithful.unmade member with ⟨other, found⟩
      exact ⟨other, (extends_reserve registry name).node? found⟩
    · rw [List.mem_singleton.mp member]
      exact ⟨name, by rw [node?_reserve fresh, if_pos rfl]⟩
  made := by
    intro id node found settled
    have grown := extends_reserve registry name
    rw [node?_reserve fresh] at found
    rw [reserve_of_fresh fresh, List.mem_append, List.mem_singleton, not_or] at settled
    rw [if_neg settled.2] at found
    rcases faithful.made found settled.1 with ⟨schema, translates⟩
    exact ⟨schema, translates.keep grown.size_le fun _ registered => grown.nameOf registered⟩

/-- Giving a type the shape that its definition is translated to. -/
theorem complete (faithful : registry.Faithful document)
    (placeholder : registry.node? id = some { name := name })
    (declared : document.schema? name = some (.inline schema))
    (registered : ∀ target ∈ shape.targets, target < registry.size)
    (translated : document.translate schema = some (shape.rename registry.nameOf)) :
    (registry.complete id schema.summary? shape).Faithful document where
  distinct := faithful.distinct
  leads := by
    intro other target bound
    rcases faithful.leads bound with ⟨node, ending, found, leads⟩
    rw [node?_complete]
    split
    · rw [found]
      exact ⟨_, ending, rfl, leads⟩
    · exact ⟨node, ending, found, leads⟩
  named := (faithful.indexed.of_names_eq names_complete rfl).named
  unmade := by
    intro target member
    rcases List.mem_filter.mp member with ⟨member, different⟩
    rcases faithful.unmade member with ⟨other, found⟩
    refine ⟨other, ?_⟩
    rw [node?_complete, if_neg (by simpa using different)]
    exact found
  made := by
    intro target node found settled
    rw [node?_complete] at found
    split at found
    next equal =>
      rw [equal, placeholder] at found
      cases found
      refine ⟨schema, declared, rfl, ?_, ?_, rfl⟩
      · simpa using registered
      · rw [translated]
        congr 2
        funext id
        exact nameOf_complete.symm
    next different =>
      have notPending : target ∉ registry.pending := by
        intro member
        apply settled
        exact List.mem_filter.mpr ⟨member, by simpa using different⟩
      rcases faithful.made found notPending with ⟨schema, translates⟩
      refine ⟨schema, translates.keep ?_ ?_⟩
      · exact Nat.le_of_eq size_complete.symm
      · intro id _
        exact nameOf_complete

/-- Binding a name to the type that it leads to. -/
theorem bindAlias (faithful : registry.Faithful document) (found : registry.node? id = some node)
    (leads : document.LeadsTo name node.name schema) :
    (registry.bindAlias name id).2.Faithful document := by
  cases held : registry.lookup? name with
  | some bound =>
      rw [bindAlias_of_bound (by simp [held])]
      exact faithful
  | none =>
      have grown := registry.extends_bindAlias name id
      have indexed := faithful.indexed.bindAlias name (lt_size_of_node? found)
      rw [bindAlias_of_fresh held] at grown indexed ⊢
      refine ⟨indexed.distinct, ?_, indexed.named, ?_, ?_⟩
      · intro other target bound
        rw [Registry.lookup?, value?_bindings_concat held] at bound
        split at bound
        next equal =>
          cases bound
          rw [equal]
          exact ⟨node, schema, found, leads⟩
        next => exact faithful.leads bound
      · exact faithful.unmade
      · intro target node found settled
        rcases faithful.made found settled with ⟨schema, translates⟩
        exact ⟨schema, translates.keep grown.size_le fun _ registered => grown.nameOf registered⟩

end Faithful

end Registry

end ApiGraph
