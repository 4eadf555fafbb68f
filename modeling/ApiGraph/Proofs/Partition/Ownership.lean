import ApiGraph.Proofs.Conversion.Operation
import ApiGraph.Proofs.Partition.Assignment
import ApiGraph.Proofs.Partition.Reach

namespace ApiGraph

/-! # Who owns a type

The requests of the partition come in the order of names, so the module that a type belongs to is
the one of the least key of the configuration that stands for it, or else the least module that
reaches it. -/

/-- The configuration gives a type to a module, under one of the names of the type. -/
def Config.Assigns (config : Config) (registry : Registry) (key module : String) (id : TypeId) :
    Prop :=
  (key, module) ∈ config.typeModules.entries ∧ registry.lookup? key = some id

/-- A module has a handler that reaches a type. -/
def Build.Reaches (result : Build) (name : String) (id : TypeId) : Prop :=
  ∃ module, result.module? name = some module ∧
    ∃ handler ∈ module.handlers, handler.Reaches result.registry id

/-! ## What modules reach does not depend on who owns it -/

section Reach

variable {registry before after : Registry} {id : TypeId} {handler : Handler}

theorem Registry.nameOf_withoutModules (id : TypeId) :
    registry.withoutModules.nameOf id = registry.nameOf id := by
  rw [Registry.nameOf, Registry.nameOf, Registry.node?_withoutModules]
  cases registry.node? id <;> rfl

theorem Registry.dependencies_withoutModules (id : TypeId) :
    registry.withoutModules.dependencies id = registry.dependencies id := by
  rw [Registry.dependencies, Registry.dependencies, Registry.node?_withoutModules]
  cases registry.node? id <;> rfl

theorem TypeGraph.ofRegistry_withoutModules :
    ofRegistry registry.withoutModules = ofRegistry registry := by
  simp only [ofRegistry, Registry.sortedIds, Registry.sortByName, Registry.ids,
    Registry.nameOf_withoutModules, Registry.dependencies_withoutModules,
    Registry.size_withoutModules]

theorem Handler.reaches_congr (same : after.withoutModules = before.withoutModules) :
    handler.Reaches after id ↔ handler.Reaches before id := by
  rw [Handler.reaches_iff, Handler.reaches_iff, ← TypeGraph.ofRegistry_withoutModules, same,
    TypeGraph.ofRegistry_withoutModules]

end Reach

namespace Partition

/-! ## The end of the partition -/

theorem handlersOf_finish (partition : Partition) (order : DependencyOrder) (name : String) :
    handlersOf (partition.finish order).modules name = handlersOf partition.modules name := by
  rw [handlersOf, partOf, finish, NameMap.value?_mapValues, partOf]
  cases partition.modules.value? name <;> rfl

variable {config : Config} {order : DependencyOrder} {start : Partition} {id : TypeId}

/-- Modules ask for types in the name that they are kept under. -/
theorem partitionTypes_eq (named : start.modules.Named) :
    partitionTypes config order start = (assigned config start).finish order := by
  have kept := (grants_configured config start).named named
  refine congrArg (finish · order) (List.foldl_ext _ _ _ ?_)
  intro partition entry member
  rcases entry with ⟨name, module⟩
  have name_eq := kept name module ((NameMap.mem_entries_iff _).mp member)
  dsimp only
  rw [name_eq]
  rfl

theorem moduleOf?_assigned (registered : id < start.registry.size)
    (unowned : start.registry.moduleOf? id = none) :
    (assigned config start).registry.moduleOf? id =
      ((config.typeModules.entries.find? fun entry =>
          (start.registry.lookup? entry.1).toList.contains id).map Prod.snd).or
        (((configured config start).modules.entries.find? fun entry =>
          (reached (TypeGraph.ofRegistry (configured config start).registry) entry.2).contains
            id).map Prod.fst) := by
  have first := grants_configured config start
  rw [(grants_assigned config start).owner id (first.size ▸ registered),
    first.owner id registered, unowned, Option.none_or]
  exact congrArg₂ Option.or (firstRequest_flatMap Prod.snd _ _ id)
    (firstRequest_flatMap Prod.fst _ _ id)

/-- A module has a handler that reaches a type. -/
def Reaches (partition : Partition) (name : String) (id : TypeId) : Prop :=
  ∃ handler ∈ handlersOf partition.modules name, handler.Reaches partition.registry id

theorem Grants.reaches {before after : Partition} {requests : List (String × TypeId)}
    (grants : Grants before after requests) (name : String) (id : TypeId) :
    after.Reaches name id ↔ before.Reaches name id := by
  simp only [Reaches, grants.handlers, Handler.reaches_congr grants.types]

/-- The modules that ask for a type in the second phase are those that reach it. -/
theorem mem_reached_entry {partition : Partition} (registered : id < partition.registry.size)
    (name : String) :
    (∃ module, (name, module) ∈ partition.modules.entries ∧
        id ∈ reached (TypeGraph.ofRegistry partition.registry) module) ↔
      partition.Reaches name id := by
  simp only [NameMap.mem_entries_iff, mem_reached, Reaches, mem_partOf]
  constructor
  · intro holds
    rcases holds with ⟨module, held, _, handler, member, reaches⟩
    exact ⟨handler, ⟨module, held, member⟩, reaches⟩
  · intro holds
    rcases holds with ⟨handler, ⟨module, held, member⟩, reaches⟩
    exact ⟨module, held, registered, handler, member, reaches⟩

/-- Who owns a type: the module of the least key that stands for it, or else the least module that
reaches it, or else no module. -/
theorem assigned_cases (config : Config) (registered : id < start.registry.size)
    (unowned : start.registry.moduleOf? id = none) :
    (∃ key module, config.Assigns start.registry key module id ∧
        (∀ other owner, config.Assigns start.registry other owner id → key ≤ other) ∧
        (assigned config start).registry.moduleOf? id = some module) ∨
      (¬∃ key module, config.Assigns start.registry key module id) ∧
        ((∃ name, start.Reaches name id ∧ (∀ other, start.Reaches other id → name ≤ other) ∧
            (assigned config start).registry.moduleOf? id = some name) ∨
          (¬∃ name, start.Reaches name id) ∧
            (assigned config start).registry.moduleOf? id = none) := by
  have grants := grants_configured config start
  rw [moduleOf?_assigned registered unowned]
  rcases config.typeModules.find?_cases fun entry =>
      (start.registry.lookup? entry.1).toList.contains id with
    ⟨⟨key, module⟩, found, member, holds, least⟩ | ⟨missing, fails⟩
  · left
    rw [found]
    refine ⟨key, module, ⟨member, by simpa using holds⟩, ?_, rfl⟩
    intro other owner holds
    rcases holds with ⟨member, bound⟩
    exact least (other, owner) member (by simpa using bound)
  · right
    rw [missing, Option.map_none, Option.none_or]
    refine ⟨?_, ?_⟩
    · intro holds
      rcases holds with ⟨key, module, member, bound⟩
      exact fails (key, module) member (by simpa using bound)
    · simp only [← grants.reaches, ← mem_reached_entry (grants.size ▸ registered)]
      rcases (configured config start).modules.find?_cases fun entry =>
          (reached (TypeGraph.ofRegistry (configured config start).registry) entry.2).contains
            id with
        ⟨⟨name, module⟩, found, member, holds, least⟩ | ⟨missing, fails⟩
      · left
        rw [found]
        refine ⟨name, ⟨module, member, by simpa using holds⟩, ?_, rfl⟩
        intro other holds
        rcases holds with ⟨owner, member, asks⟩
        exact least (other, owner) member (by simpa using asks)
      · right
        rw [missing]
        refine ⟨?_, rfl⟩
        intro holds
        rcases holds with ⟨name, module, member, asks⟩
        exact fails (name, module) member (by simpa using asks)

end Partition

end ApiGraph
