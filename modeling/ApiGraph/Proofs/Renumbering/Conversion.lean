import ApiGraph.Proofs.Conversion.Result
import ApiGraph.Proofs.Conversion.Success
import ApiGraph.Proofs.Renumbering.Partition
import Mathlib

namespace ApiGraph

/-! # Conversions of documents that say the same

Two documents match when every name means in the second one what it means in the first. The registry
of all components is then the same but for the numbers of types, which follow the order in which
components are met. -/

open Registry

namespace Document

/-- A definition of one document is to be read like a definition of another one. -/
structure DefinesAlike (first second : Document) (schema other : Schema) : Prop where
  summary : other.summary? = schema.summary?
  translation : second.translate other = first.translate schema
  tally : ∀ location, shapeTally other location = shapeTally schema location

/-- The components of two documents have the same names and stand for the same definitions. -/
structure Matches (first second : Document) : Prop where
  declared : ∀ name, name ∈ Entries.names second.components.schemas ↔
    name ∈ Entries.names first.components.schemas
  leads : ∀ {name last schema}, first.LeadsTo name last schema →
    ∃ other, second.LeadsTo name last other ∧ first.DefinesAlike second schema other

/-- An operation of one document is to be read like an operation of another one. -/
structure OperatesAlike (first second : Document) (entry other : OperationEntry) : Prop where
  tags : other.operation.tags = entry.operation.tags
  translation : second.translateOperation other = first.translateOperation entry
  tally : second.operationTally other = first.operationTally entry

variable {first second : Document}

namespace Matches

variable (agree : first.Matches second)

include agree

theorem leads_back (chains : first.ChainsEnd) {name last : String} {other : Schema}
    (leads : second.LeadsTo name last other) :
    ∃ schema, first.LeadsTo name last schema ∧ first.DefinesAlike second schema other := by
  have member : name ∈ Entries.names second.components.schemas := by
    cases leads with
    | here declared => exact Entries.mem_names_of_value?_eq_some declared
    | onward declared => exact Entries.mem_names_of_value?_eq_some declared
  rcases chains name ((agree.declared name).mp member) with ⟨final, schema, ends⟩
  rcases agree.leads ends with ⟨definition, also, alike⟩
  rcases also.unique leads with ⟨rfl, rfl⟩
  exact ⟨schema, ends, alike⟩

theorem symm (chains : first.ChainsEnd) : second.Matches first where
  declared name := (agree.declared name).symm
  leads := by
    intro name last other leads
    rcases agree.leads_back chains leads with ⟨schema, ends, alike⟩
    exact ⟨schema, ends, alike.summary.symm, alike.translation.symm,
      fun location => (alike.tally location).symm⟩

theorem chainsEnd (chains : first.ChainsEnd) : second.ChainsEnd := by
  intro name member
  rcases chains name ((agree.declared name).mp member) with ⟨last, schema, leads⟩
  rcases agree.leads leads with ⟨other, ends, _⟩
  exact ⟨last, other, ends⟩

/-- A component that is a definition has the definition that is to be read like it. -/
theorem exists_alike {name : String} {schema : Schema}
    (declared : first.schema? name = some (.inline schema)) :
    ∃ other, second.schema? name = some (.inline other) ∧
      first.DefinesAlike second schema other := by
  rcases agree.leads (.here declared) with ⟨other, leads, alike⟩
  exact ⟨other, leads.declared, alike⟩

theorem definitionTally_eq {name : String} {schema : Schema}
    (declared : first.schema? name = some (.inline schema)) :
    second.definitionTally name = first.definitionTally name := by
  rcases agree.exists_alike declared with ⟨other, also, alike⟩
  rw [definitionTally, definitionTally, declared, also]
  exact alike.tally name

end Matches

end Document

/-! ## The numbers of one registry in terms of another -/

namespace Registry

theorem Faithful.isNamed {document : Document} {registry : Registry}
    (faithful : registry.Faithful document) : registry.IsNamed :=
  fun _ _ => faithful.named

section Named

variable {registry : Registry} (named : registry.IsNamed)

include named

theorem IsNamed.apart {left right : List TypeId} (inLeft : registry.Registers left)
    (inRight : registry.Registers right) :
    ∀ first ∈ left, ∀ second ∈ right,
      registry.nameOf first = registry.nameOf second → first = second :=
  fun _ member _ inside => named.nameOf_injective (inLeft _ member) (inRight _ inside)

theorem IsNamed.shape_eq {shape other : Shape TypeId}
    (inShape : registry.Registers shape.targets) (inOther : registry.Registers other.targets)
    (same : shape.rename registry.nameOf = other.rename registry.nameOf) : shape = other :=
  Shape.rename_injective registry.nameOf (named.apart inShape inOther) same

theorem IsNamed.fields_eq {fields others : List (TypeField TypeId)}
    (inFields : ∀ field ∈ fields, registry.Registers field.type.targets)
    (inOthers : ∀ field ∈ others, registry.Registers field.type.targets)
    (same : renameFields registry.nameOf fields = renameFields registry.nameOf others) :
    fields = others := by
  have registers {fields : List (TypeField TypeId)}
      (each : ∀ field ∈ fields, registry.Registers field.type.targets) :
      registry.Registers (fieldTargets fields) := by
    intro target member
    rcases mem_fieldTargets.mp member with ⟨field, inside, member⟩
    exact each field inside target member
  exact renameFields_injective registry.nameOf
    (named.apart (registers inFields) (registers inOthers)) same

theorem IsNamed.body_eq {body other : Option (TypeRef TypeId)}
    (inBody : ∀ type ∈ body, registry.Registers type.targets)
    (inOther : ∀ type ∈ other, registry.Registers type.targets)
    (same : body.map (·.rename registry.nameOf) = other.map (·.rename registry.nameOf)) :
    body = other := by
  cases body with
  | none =>
      cases other with
      | none => rfl
      | some type => cases same
  | some type =>
      cases other with
      | none => cases same
      | some another =>
          have apart := named.apart (inBody type rfl) (inOther another rfl)
          rw [TypeRef.rename_injective registry.nameOf apart (Option.some.inj same)]

/-- A handler is known by what it says of names. -/
theorem IsNamed.handler_eq {handler other : Handler}
    (inHandler : ∀ type ∈ handler.typeRefs, registry.Registers type.targets)
    (inOther : ∀ type ∈ other.typeRefs, registry.Registers type.targets)
    (same : handler.named registry = other.named registry) : handler = other := by
  simp only [Handler.typeRefs, Handler.params, List.mem_append, List.mem_map, Option.mem_toList]
    at inHandler inOther
  simp only [Handler.named, NamedHandler.mk.injEq] at same
  rcases same with ⟨name, description, path, method, contentType, header, inPath, query, request,
    response⟩
  have headerParams := named.fields_eq
    (fun field member => inHandler _ (.inr ⟨field, .inl (.inl member), rfl⟩))
    (fun field member => inOther _ (.inr ⟨field, .inl (.inl member), rfl⟩)) header
  have pathParams := named.fields_eq
    (fun field member => inHandler _ (.inr ⟨field, .inl (.inr member), rfl⟩))
    (fun field member => inOther _ (.inr ⟨field, .inl (.inr member), rfl⟩)) inPath
  have queryParams := named.fields_eq
    (fun field member => inHandler _ (.inr ⟨field, .inr member, rfl⟩))
    (fun field member => inOther _ (.inr ⟨field, .inr member, rfl⟩)) query
  have requestBody := named.body_eq (fun type member => inHandler _ (.inl (.inl member)))
    (fun type member => inOther _ (.inl (.inl member))) request
  have responseBody := named.body_eq (fun type member => inHandler _ (.inl (.inr member)))
    (fun type member => inOther _ (.inl (.inr member))) response
  cases handler
  cases other
  simp only at *
  simp only [name, description, path, method, contentType, headerParams, pathParams, queryParams,
    requestBody, responseBody]

end Named

theorem Complete.chainsEnd {document : Document} {registry : Registry}
    (complete : registry.Complete document) : document.ChainsEnd := by
  intro name member
  rcases complete.bound name member with ⟨id, bound⟩
  rcases complete.faithful.leads bound with ⟨node, schema, _, leads⟩
  exact ⟨node.name, schema, leads⟩

theorem node?_eq_none_of_le {registry : Registry} {id : TypeId} (beyond : registry.size ≤ id) :
    registry.node? id = none :=
  List.getElem?_eq_none beyond

theorem nameOf_mem_names {registry : Registry} {id : TypeId} (registered : id < registry.size) :
    registry.nameOf id ∈ registry.names := by
  rw [nameOf_eq (List.getElem?_eq_getElem registered)]
  exact List.mem_map_of_mem (List.getElem_mem registered)

/-- The number in the second registry of what has a number in the first one. -/
def counterpart (before after : Registry) (id : TypeId) : TypeId :=
  if id < before.size then (after.lookup? (before.nameOf id)).getD 0 else id

section Complete

variable {first second : Document} {before after : Registry} {id : TypeId}

theorem Complete.names_perm (agree : first.Matches second) (complete : before.Complete first)
    (also : after.Complete second) : before.names.Perm after.names := by
  refine (List.perm_ext_iff_of_nodup complete.faithful.indexed.nodup_names
    also.faithful.indexed.nodup_names).mpr fun name => ?_
  rw [complete.mem_names_iff, also.mem_names_iff]
  constructor
  · intro holds
    rcases holds with ⟨schema, declared⟩
    rcases agree.exists_alike declared with ⟨other, declared, _⟩
    exact ⟨other, declared⟩
  · intro holds
    rcases holds with ⟨other, declared⟩
    rcases (agree.symm complete.chainsEnd).exists_alike declared with ⟨schema, declared, _⟩
    exact ⟨schema, declared⟩

theorem Complete.size_eq_of_matches (agree : first.Matches second)
    (complete : before.Complete first) (also : after.Complete second) :
    after.size = before.size := by
  have length := (complete.names_perm agree also).length_eq
  rw [names, names, List.length_map, List.length_map] at length
  exact length.symm

/-- A type has a counterpart of the same name. -/
theorem Complete.counterpart_spec (agree : first.Matches second)
    (complete : before.Complete first) (also : after.Complete second)
    (registered : id < before.size) :
    before.counterpart after id < after.size ∧
      after.nameOf (before.counterpart after id) = before.nameOf id ∧
      after.lookup? (before.nameOf id) = some (before.counterpart after id) := by
  have member := (complete.names_perm agree also).mem_iff.mp (nameOf_mem_names registered)
  rcases List.mem_map.mp member with ⟨node, inside, name⟩
  rcases List.mem_iff_getElem?.mp inside with ⟨other, found⟩
  have bound := also.faithful.named found
  rw [name] at bound
  have equal : before.counterpart after id = other := by
    rw [counterpart, if_pos registered, bound]
    rfl
  rw [equal]
  exact ⟨lt_size_of_node? found, (nameOf_eq found).trans name, bound⟩

theorem Complete.counterpart_counterpart (agree : first.Matches second)
    (complete : before.Complete first) (also : after.Complete second) (id : TypeId) :
    after.counterpart before (before.counterpart after id) = id := by
  by_cases registered : id < before.size
  · rcases complete.counterpart_spec agree also registered with ⟨inside, name, _⟩
    rw [counterpart, if_pos inside, name]
    have found : before.node? id = some before.nodes[id] := List.getElem?_eq_getElem registered
    rw [nameOf_eq found, complete.faithful.named found]
    rfl
  · have beyond : ¬id < after.size := by
      rwa [complete.size_eq_of_matches agree also]
    have same : before.counterpart after id = id := if_neg registered
    rw [same, counterpart, if_neg beyond]

/-- Types and their counterparts. -/
def Complete.renumbering (agree : first.Matches second) (complete : before.Complete first)
    (also : after.Complete second) : Equiv.Perm TypeId where
  toFun := before.counterpart after
  invFun := after.counterpart before
  left_inv := complete.counterpart_counterpart agree also
  right_inv := also.counterpart_counterpart (agree.symm complete.chainsEnd) complete

theorem Complete.translates {document : Document} {registry : Registry} {node : TypeNode}
    (complete : registry.Complete document) (found : registry.node? id = some node) :
    ∃ schema, node.Translates document registry schema := by
  apply complete.faithful.made found
  rw [complete.settled]
  exact List.not_mem_nil

theorem Complete.rename_counterpart (agree : first.Matches second)
    (complete : before.Complete first) (also : after.Complete second) {shape : Shape TypeId}
    (registered : before.Registers shape.targets) :
    (shape.rename (complete.renumbering agree also)).rename after.nameOf =
      shape.rename before.nameOf := by
  rw [Shape.rename_rename]
  apply shape.rename_congr
  intro target member
  exact (complete.counterpart_spec agree also (registered target member)).2.1

theorem Complete.registers_counterpart (agree : first.Matches second)
    (complete : before.Complete first) (also : after.Complete second) {targets : List TypeId}
    (registered : before.Registers targets) :
    after.Registers (targets.map (complete.renumbering agree also)) := by
  intro target member
  rcases List.mem_map.mp member with ⟨old, inside, rfl⟩
  exact (complete.counterpart_spec agree also (registered old inside)).1

/-- Types of the same name are made of counterparts. -/
theorem Complete.node_eq (agree : first.Matches second) (complete : before.Complete first)
    (also : after.Complete second) {node other : TypeNode} {moved : TypeId}
    (found : before.node? id = some node) (held : after.node? moved = some other)
    (name : other.name = node.name) :
    other = node.renumber (complete.renumbering agree also) := by
  rcases complete.translates found with ⟨schema, translates⟩
  rcases also.translates held with ⟨definition, retranslates⟩
  rcases agree.exists_alike translates.declared with ⟨expected, declared, alike⟩
  have equal := retranslates.declared
  rw [name, declared] at equal
  cases equal
  have shape : other.shape = node.shape.rename (complete.renumbering agree also) := by
    apply also.faithful.isNamed.shape_eq retranslates.registered
    · rw [Shape.targets_rename]
      exact complete.registers_counterpart agree also translates.registered
    · rw [complete.rename_counterpart agree also translates.registered]
      apply Option.some.inj
      rw [← retranslates.translated, ← translates.translated, alike.translation]
  have description : other.description = node.description := by
    rw [retranslates.description, translates.description, alike.summary]
  have module : other.module = node.module := by
    rw [retranslates.unowned, translates.unowned]
  rcases node with ⟨_, _, _, _⟩
  rcases other with ⟨_, _, _, _⟩
  simp only at name description shape module
  simp only [TypeNode.renumber, name, description, shape, module]

/-- Two registries of all components differ in the numbers of types only. -/
theorem Complete.renumbers (agree : first.Matches second) (complete : before.Complete first)
    (also : after.Complete second) :
    before.Renumbers (complete.renumbering agree also) after where
  size := complete.size_eq_of_matches agree also
  node? id := by
    have moved : complete.renumbering agree also id = before.counterpart after id := rfl
    by_cases registered : id < before.size
    · rcases complete.counterpart_spec agree also registered with ⟨inside, name, _⟩
      have found : before.node? id = some before.nodes[id] := List.getElem?_eq_getElem registered
      have held : after.node? (before.counterpart after id) =
          some after.nodes[before.counterpart after id] := List.getElem?_eq_getElem inside
      rw [nameOf_eq held, nameOf_eq found] at name
      rw [moved, held, found, Option.map_some, complete.node_eq agree also found held name]
    · have beyond : after.size ≤ id := by
        rw [complete.size_eq_of_matches agree also]
        exact Nat.le_of_not_lt registered
      have same : before.counterpart after id = id := if_neg registered
      rw [moved, same, node?_eq_none_of_le beyond,
        node?_eq_none_of_le (Nat.le_of_not_lt registered)]
      rfl
  lookup? name := by
    cases bound : before.lookup? name with
    | none =>
        cases held : after.lookup? name with
        | none => rfl
        | some id =>
            have member := (agree.declared name).mp (also.faithful.mem_names_of_bound held)
            rcases complete.bound name member with ⟨id, other⟩
            rw [bound] at other
            cases other
    | some id =>
        rcases complete.faithful.leads bound with ⟨node, schema, found, leads⟩
        rcases agree.leads leads with ⟨other, ends, _⟩
        have member := complete.faithful.mem_names_of_bound bound
        rcases also.bound name ((agree.declared name).mpr member) with ⟨moved, held⟩
        rcases complete.counterpart_spec agree also (lt_size_of_node? found) with
          ⟨inside, same, _⟩
        have counterpart : after.node? (before.counterpart after id) =
            some after.nodes[before.counterpart after id] := List.getElem?_eq_getElem inside
        rw [nameOf_eq found, nameOf_eq counterpart] at same
        rw [held, also.faithful.lookup?_unique counterpart (same ▸ ends) held]
        rfl

/-! ## Handlers -/

theorem Renumbers.named_handler {renumbering : Equiv.Perm TypeId}
    (renumbers : before.Renumbers renumbering after) (handler : Handler) :
    (handler.renumber renumbering).named after = handler.named before := by
  simp only [Handler.named, Handler.renumber, renumbers.map_rename_rename,
    renumbers.renameFields_renameFields]

theorem Complete.handler_eq (agree : first.Matches second) (complete : before.Complete first)
    (also : after.Complete second) {entry other : OperationEntry} {handler moved : Handler}
    (alike : first.OperatesAlike second entry other)
    (translates : handler.Translates first before entry)
    (retranslates : moved.Translates second after other) :
    moved = handler.renumber (complete.renumbering agree also) := by
  apply also.faithful.isNamed.handler_eq retranslates.registered
  · intro type member
    rw [Handler.typeRefs_renumber] at member
    rcases List.mem_map.mp member with ⟨old, inside, rfl⟩
    rw [TypeRef.targets_rename]
    exact complete.registers_counterpart agree also (translates.registered old inside)
  · have expected : handler.named before = moved.named after := by
      apply Option.some.inj
      rw [← retranslates.translated, ← translates.translated, alike.translation]
    rw [← expected, (complete.renumbers agree also).named_handler]

end Complete

end Registry

/-! ## Handlers of operations -/

section Handled

open ApiGraph.Partition

variable {first second : Document} {before after : Registry} {entries others : List OperationEntry}
  {handled rehandled : Handled}

/-- Operations in another order have their handlers in that order. -/
theorem Handles.perm (handles : Handles first before entries handled)
    (perm : entries.Perm others) :
    ∃ shuffled, handled.Perm shuffled ∧ Handles first before others shuffled := by
  have paired : List.Forall₂ (fun entry pair => Prod.fst pair = entry) entries handled := by
    rw [← handles.entries, List.forall₂_map_left_iff, List.forall₂_same]
    exact fun _ _ => rfl
  rcases List.perm_comp_forall₂ perm.symm paired with ⟨shuffled, aligned, moved⟩
  refine ⟨shuffled, moved.symm, ?_, ?_⟩
  · rw [← List.forall₂_eq_eq_eq, List.forall₂_map_left_iff]
    exact aligned.flip
  · intro pair member
    exact handles.translates pair (moved.mem_iff.mp member)

/-- Operations that are to be read alike have the same handlers, but for the numbers of types. -/
theorem Handles.forall₂_renumber (agree : first.Matches second) (complete : before.Complete first)
    (also : after.Complete second) (handles : Handles first before entries handled)
    (rehandles : Handles second after others rehandled)
    (alike : List.Forall₂ (first.OperatesAlike second) entries others) :
    List.Forall₂ (fun pair other => other.1.operation.tags = pair.1.operation.tags ∧
        other.2 = pair.2.renumber (complete.renumbering agree also)) handled rehandled := by
  rcases handles with ⟨rfl, translates⟩
  rcases rehandles with ⟨rfl, retranslates⟩
  rw [List.forall₂_map_left_iff, List.forall₂_map_right_iff] at alike
  induction alike with
  | nil => exact .nil
  | cons here _ induction =>
      rw [List.forall_mem_cons] at translates retranslates
      exact .cons ⟨here.tags, complete.handler_eq agree also here translates.1 retranslates.1⟩
        (induction translates.2 retranslates.2)

theorem handlersFor_renumber {renumbering : TypeId → TypeId}
    (related : List.Forall₂ (fun pair other => other.1.operation.tags = pair.1.operation.tags ∧
      other.2 = pair.2.renumber renumbering) handled rehandled) (fallback name : String) :
    handlersFor fallback rehandled name =
      (handlersFor fallback handled name).map (.renumber renumbering) := by
  induction related with
  | nil => rfl
  | @cons pair other _ _ here _ induction =>
      rcases here with ⟨tags, renumbered⟩
      have module : other.1.moduleName fallback = pair.1.moduleName fallback := by
        rw [OperationEntry.moduleName, OperationEntry.moduleName, tags]
      rw [handlersFor, handlersFor] at induction ⊢
      rw [List.filter_cons, List.filter_cons]
      simp only [module]
      split
      next => rw [List.map_cons, List.map_cons, List.map_cons, induction, renumbered]
      next => exact induction

theorem handlersFor_perm (perm : handled.Perm rehandled) (fallback name : String) :
    (handlersFor fallback handled name).Perm (handlersFor fallback rehandled name) :=
  (perm.filter _).map _

end Handled

end ApiGraph
