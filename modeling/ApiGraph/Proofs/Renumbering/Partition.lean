import ApiGraph.Proofs.Partition.Contents
import ApiGraph.Proofs.Renumbering.Order
import Mathlib

namespace ApiGraph

/-! # The partition with other numbers

Owners are found by names: those of the configuration, and those of modules that reach a type. So the
same modules own the same types, whatever the numbers of these are. -/

/-- A handler with other numbers for what it refers to. -/
def Handler.renumber (renumbering : TypeId → TypeId) (handler : Handler) : Handler :=
  { handler with
    headerParams := renameFields renumbering handler.headerParams
    pathParams := renameFields renumbering handler.pathParams
    queryParams := renameFields renumbering handler.queryParams
    requestBody := handler.requestBody.map (·.rename renumbering)
    responseBody := handler.responseBody.map (·.rename renumbering) }

theorem Handler.typeRefs_renumber (handler : Handler) (renumbering : TypeId → TypeId) :
    (handler.renumber renumbering).typeRefs = handler.typeRefs.map (·.rename renumbering) := by
  have body (type? : Option (TypeRef TypeId)) :
      (type?.map (·.rename renumbering)).toList = type?.toList.map (·.rename renumbering) := by
    cases type? <;> rfl
  have fields (fields : List (TypeField TypeId)) :
      (renameFields renumbering fields).map Field.type =
        (fields.map Field.type).map (·.rename renumbering) := by
    rw [renameFields_eq_map, List.map_map, List.map_map]
    rfl
  simp only [typeRefs, params, renumber, body, fields, List.map_append]

section Reach

variable {before after : Registry} {renumbering : Equiv.Perm TypeId}

theorem Registry.Reaches.renumber (renumbers : before.Renumbers renumbering after)
    {type : TypeRef TypeId} {id : TypeId} (reaches : before.Reaches type id) :
    after.Reaches (type.rename renumbering) (renumbering id) := by
  induction reaches with
  | arrive id =>
      rw [TypeRef.rename]
      exact .arrive _
  | inside member _ induction =>
      rw [TypeRef.rename]
      refine .inside ?_ induction
      rw [Shape.children_rename]
      exact List.mem_map_of_mem member
  | @through target node child id found member _ induction =>
      have moved : after.node? (renumbering target) = some (node.renumber renumbering) := by
        rw [renumbers.node?, found, Option.map_some]
      rw [TypeRef.rename]
      refine .through moved ?_ induction
      rw [TypeNode.renumber, Shape.children_rename]
      exact List.mem_map_of_mem member

theorem Handler.Reaches.renumber (renumbers : before.Renumbers renumbering after)
    {handler : Handler} {id : TypeId} (reaches : handler.Reaches before id) :
    (handler.renumber renumbering).Reaches after (renumbering id) := by
  rcases reaches with ⟨type, slot, reaches⟩
  refine ⟨type.rename renumbering, ?_, reaches.renumber renumbers⟩
  rw [Handler.slot_iff, Handler.typeRefs_renumber]
  exact List.mem_map_of_mem (Handler.slot_iff.mp slot)

theorem Handler.renumber_symm (handler : Handler) (renumbering : Equiv.Perm TypeId) :
    (handler.renumber renumbering).renumber renumbering.symm = handler := by
  have fields (fields : List (TypeField TypeId)) :
      renameFields renumbering.symm (renameFields renumbering fields) = fields := by
    rw [renameFields_rename]
    simp only [Equiv.symm_apply_apply, renameFields_self]
  have body (type? : Option (TypeRef TypeId)) :
      (type?.map (·.rename renumbering)).map (·.rename renumbering.symm) = type? := by
    cases type? with
    | none => rfl
    | some type =>
        simp only [Option.map_some, TypeRef.rename_rename, Equiv.symm_apply_apply,
          TypeRef.rename_self]
  simp only [renumber, fields, body]

end Reach

namespace Partition

/-! ## Owners -/

/-- Who owns a type at the end, in terms of the start. -/
def Owns (config : Config) (start : Partition) (id : TypeId) : Option String → Prop
  | some name =>
      (∃ key, config.Assigns start.registry key name id ∧
        ∀ other owner, config.Assigns start.registry other owner id → key ≤ other) ∨
      (¬∃ key module, config.Assigns start.registry key module id) ∧
        start.Reaches name id ∧ ∀ other, start.Reaches other id → name ≤ other
  | none =>
      (¬∃ key module, config.Assigns start.registry key module id) ∧ ¬∃ name, start.Reaches name id

section Owners

variable {config : Config} {start : Partition} {id : TypeId} {left right : Option String}

theorem owns_assigned (registered : id < start.registry.size)
    (unowned : start.registry.moduleOf? id = none) :
    Owns config start id ((assigned config start).registry.moduleOf? id) := by
  rcases assigned_cases config registered unowned with
    ⟨key, module, assigns, least, owner⟩ |
      ⟨unassigned, ⟨name, reaches, least, owner⟩ | ⟨unreached, free⟩⟩
  · rw [owner]
    exact .inl ⟨key, assigns, least⟩
  · rw [owner]
    exact .inr ⟨unassigned, reaches, least⟩
  · rw [free]
    exact ⟨unassigned, unreached⟩

theorem Owns.unique (first : Owns config start id left) (second : Owns config start id right) :
    left = right := by
  cases left with
  | none =>
      cases right with
      | none => rfl
      | some name =>
          rcases second with ⟨key, assigns, _⟩ | ⟨_, reaches, _⟩
          · exact absurd ⟨key, name, assigns⟩ first.1
          · exact absurd ⟨name, reaches⟩ first.2
  | some module =>
      cases right with
      | none =>
          rcases first with ⟨key, assigns, _⟩ | ⟨_, reaches, _⟩
          · exact absurd ⟨key, module, assigns⟩ second.1
          · exact absurd ⟨module, reaches⟩ second.2
      | some name =>
          rcases first with ⟨key, assigns, least⟩ | ⟨unassigned, reaches, least⟩
          · rcases second with ⟨other, also, leastOther⟩ | ⟨unassigned, _, _⟩
            · have same := String.le_antisymm (least other name also)
                (leastOther key module assigns)
              have held := (config.typeModules.mem_entries_iff).mp assigns.1
              rw [same, (config.typeModules.mem_entries_iff).mp also.1] at held
              exact held.symm
            · exact absurd ⟨key, module, assigns⟩ unassigned
          · rcases second with ⟨other, also, _⟩ | ⟨_, reachesOther, leastOther⟩
            · exact absurd ⟨other, name, also⟩ unassigned
            · rw [String.le_antisymm (least name reachesOther) (leastOther module reaches)]

end Owners

/-- The second partition starts from what the first one does, but for the numbers of types and the
order of handlers. -/
structure Renumbers (before : Partition) (renumbering : Equiv.Perm TypeId) (after : Partition) :
    Prop where
  registry : before.registry.Renumbers renumbering after.registry
  handlers : ∀ name, ((handlersOf before.modules name).map (.renumber renumbering)).Perm
    (handlersOf after.modules name)

variable {config : Config} {before after : Partition} {renumbering : Equiv.Perm TypeId}
  {id : TypeId}

theorem Renumbers.symm (renumbers : before.Renumbers renumbering after) :
    after.Renumbers renumbering.symm before where
  registry := renumbers.registry.symm
  handlers name := by
    have back := (renumbers.handlers name).map (Handler.renumber renumbering.symm)
    have same : ((handlersOf before.modules name).map (Handler.renumber renumbering)).map
        (Handler.renumber renumbering.symm) = handlersOf before.modules name := by
      rw [List.map_map]
      exact List.map_id'' (fun handler => handler.renumber_symm renumbering) _
    rw [same] at back
    exact back.symm

theorem Renumbers.reaches (renumbers : before.Renumbers renumbering after) {name : String}
    (reaches : before.Reaches name id) : after.Reaches name (renumbering id) := by
  rcases reaches with ⟨handler, member, reaches⟩
  exact ⟨handler.renumber renumbering,
    (renumbers.handlers name).mem_iff.mp (List.mem_map_of_mem member),
    reaches.renumber renumbers.registry⟩

theorem Renumbers.reaches_iff (renumbers : before.Renumbers renumbering after) (name : String) :
    after.Reaches name (renumbering id) ↔ before.Reaches name id := by
  constructor
  · intro reaches
    have back := renumbers.symm.reaches reaches
    rwa [Equiv.symm_apply_apply] at back
  · exact renumbers.reaches

theorem Renumbers.assigns_iff (renumbers : before.Renumbers renumbering after)
    (key module : String) :
    config.Assigns after.registry key module (renumbering id) ↔
      config.Assigns before.registry key module id := by
  rw [Config.Assigns, Config.Assigns, renumbers.registry.lookup?]
  simp

theorem Renumbers.owns_iff (renumbers : before.Renumbers renumbering after)
    (owner : Option String) :
    Owns config after (renumbering id) owner ↔ Owns config before id owner := by
  cases owner <;> simp only [Owns, renumbers.reaches_iff, renumbers.assigns_iff]

end Partition

/-! ## Registries with owners -/

namespace Registry

variable {before after : Registry} {renumbering : Equiv.Perm TypeId}

theorem Renumbers.withoutModules (renumbers : before.Renumbers renumbering after) :
    before.withoutModules.Renumbers renumbering after.withoutModules where
  size := by rw [size_withoutModules, size_withoutModules, renumbers.size]
  node? id := by
    rw [node?_withoutModules, node?_withoutModules, renumbers.node?, Option.map_map, Option.map_map]
    rfl
  lookup? := renumbers.lookup?

/-- Registries are known by their types and the owners of these. -/
theorem node?_eq_map (registry : Registry) (id : TypeId) :
    registry.node? id = (registry.withoutModules.node? id).map fun node =>
      { node with module := registry.moduleOf? id } := by
  rw [node?_withoutModules, Option.map_map]
  cases found : registry.node? id with
  | none => rfl
  | some node =>
      rw [Option.map_some, moduleOf?_eq found]
      rfl

theorem Renumbers.of_withoutModules
    (types : before.withoutModules.Renumbers renumbering after.withoutModules)
    (owners : ∀ id, after.moduleOf? (renumbering id) = before.moduleOf? id) :
    before.Renumbers renumbering after where
  size := by
    have size := types.size
    rwa [size_withoutModules, size_withoutModules] at size
  node? id := by
    rw [node?_eq_map, types.node?, owners, node?_eq_map before, Option.map_map, Option.map_map]
    rfl
  lookup? := types.lookup?

theorem Renumbers.moduleOf? (renumbers : before.Renumbers renumbering after) (id : TypeId) :
    after.moduleOf? (renumbering id) = before.moduleOf? id := by
  rw [Registry.moduleOf?, Registry.moduleOf?, renumbers.node?]
  cases before.node? id <;> rfl

theorem Renumbers.owned (renumbers : before.Renumbers renumbering after) :
    after.owned = before.owned := by
  rw [Registry.owned, Registry.owned, ← renumbers.nodes_perm.countP_eq, List.countP_map]
  rfl

theorem Renumbers.unowned (renumbers : before.Renumbers renumbering after) :
    (after.nodes.countP fun node => node.module.isNone) =
      before.nodes.countP fun node => node.module.isNone := by
  rw [← renumbers.nodes_perm.countP_eq, List.countP_map]
  rfl

end Registry

namespace Partition

variable {config : Config} {before after : Partition} {renumbering : Equiv.Perm TypeId}

/-- Partitions with the same types in them have the same owners for types without a number. -/
theorem Grants.moduleOf?_of_unregistered {requests : List (String × TypeId)}
    (grants : Grants before after requests) {id : TypeId}
    (unregistered : ¬id < before.registry.size) : after.registry.moduleOf? id = none :=
  Registry.moduleOf?_of_unregistered (grants.size ▸ unregistered)

namespace Renumbers

variable (renumbers : before.Renumbers renumbering after)

include renumbers

/-- Owners are granted alike where the registered types are given the same ones. -/
theorem of_grants {granted regranted : Partition} {requests others : List (String × TypeId)}
    (first : Grants before granted requests) (second : Grants after regranted others)
    (owners : ∀ id < before.registry.size,
      regranted.registry.moduleOf? (renumbering id) = granted.registry.moduleOf? id) :
    granted.registry.Renumbers renumbering regranted.registry := by
  apply Registry.Renumbers.of_withoutModules
  · rw [first.types, second.types]
    exact renumbers.registry.withoutModules
  · intro id
    by_cases registered : id < before.registry.size
    · exact owners id registered
    · have gone := renumbers.registry.lt_size_iff.not.mpr registered
      rw [first.moduleOf?_of_unregistered registered, second.moduleOf?_of_unregistered gone]

variable (unowned : ∀ id, before.registry.moduleOf? id = none)

include unowned

theorem configured :
    (configured config before).registry.Renumbers renumbering
      (configured config after).registry := by
  have first := grants_configured config before
  have second := grants_configured config after
  apply renumbers.of_grants first second
  intro id registered
  have moved := renumbers.registry.lt_size_iff.mpr registered
  have asks (key : String) :
      (after.registry.lookup? key).toList.contains (renumbering id) =
        (before.registry.lookup? key).toList.contains id := by
    rw [renumbers.registry.lookup?]
    cases before.registry.lookup? key <;> simp
  rw [first.owner id registered, second.owner _ moved, renumbers.registry.moduleOf?, unowned,
    firstRequest_flatMap Prod.snd, firstRequest_flatMap Prod.snd]
  simp only [asks]

theorem assigned :
    (assigned config before).registry.Renumbers renumbering
      (ApiGraph.Partition.assigned config after).registry := by
  rcases exists_grants config before with ⟨_, first⟩
  rcases exists_grants config after with ⟨_, second⟩
  apply renumbers.of_grants first second
  intro id registered
  have moved := renumbers.registry.lt_size_iff.mpr registered
  have free : after.registry.moduleOf? (renumbering id) = none := by
    rw [renumbers.registry.moduleOf?, unowned]
  have owner : Owns config after (renumbering id)
      ((ApiGraph.Partition.assigned config after).registry.moduleOf? (renumbering id)) :=
    owns_assigned moved free
  exact ((renumbers.owns_iff _).mp owner).unique (owns_assigned registered (unowned id))

end Renumbers

end Partition

end ApiGraph
