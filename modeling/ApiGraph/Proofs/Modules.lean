import ApiGraph.Proofs.Ownership

namespace ApiGraph

/-! # The modules of a build as a partition

Who owns a type is written down twice, with the type and in the list of its module. The two agree:
the list of a module is the dependency order without the types of other modules. So every type stands
in one list or in none, and the lists are in dependency order themselves. -/

open ApiGraph.Partition

/-- An entry of the configuration takes effect when no smaller key stands for its type. -/
def Config.Effective (config : Config) (registry : Registry) (key module : String) : Prop :=
  ∃ id, config.Assigns registry key module id ∧
    ∀ other owner, config.Assigns registry other owner id → key ≤ other

/-- Of two members of a list in order, the one that comes first has the smaller rank. -/
theorem idxOf_lt_of_pairwise {rank : TypeId → Nat} {ids : List TypeId} {left right : TypeId}
    (sorted : ids.Pairwise fun left right => rank left ≤ rank right) (leftInside : left ∈ ids)
    (before : rank left < rank right) : ids.idxOf left < ids.idxOf right := by
  refine Nat.lt_of_not_le fun notBefore => ?_
  have leftBelow := List.idxOf_lt_length_of_mem leftInside
  have rightBelow := Nat.lt_of_le_of_lt notBefore leftBelow
  rcases Nat.lt_or_eq_of_le notBefore with after | same
  · have ordered := List.pairwise_iff_getElem.mp sorted _ _ rightBelow leftBelow after
    rw [List.getElem_idxOf, List.getElem_idxOf] at ordered
    exact absurd ordered (Nat.not_le_of_lt before)
  · have equal : ids[ids.idxOf right] = ids[ids.idxOf left] := by simp only [same]
    rw [List.getElem_idxOf, List.getElem_idxOf] at equal
    exact absurd before (by rw [equal]; exact Nat.lt_irrefl _)

namespace Build.Arises

variable {document : Document} {config : Config} {progress : Progress} {grouped : ModuleMap}
  {result : Build} (arises : result.Arises document config progress grouped)

include arises

theorem types_eq {name : String} {module : Module} (found : result.module? name = some module) :
    module.types =
      result.order.order.filter fun id => decide (result.registry.moduleOf? id = some name) := by
  have types := arises.typesOf_eq name
  rw [Build.module?] at found
  rw [typesOf, partOf, found] at types
  exact types

/-- A dependency that is not on a common cycle stands earlier in the order. -/
theorem before_of_dependency {source target : TypeId}
    (dependency : target ∈ result.registry.dependencies source)
    (apart : ¬∃ cycle ∈ result.order.cycles, source ∈ cycle ∧ target ∈ cycle) :
    result.order.order.idxOf target < result.order.order.idxOf source := by
  rcases TypeGraph.exists_emission (TypeGraph.closed_ofRegistry arises.closed)
    (TypeGraph.nodup_vertices_ofRegistry result.registry) with
    ⟨groups, emission, order, cycles, perm⟩
  have flat : result.order.order = groups.flatten := by rw [arises.order_eq]; exact order
  have nodup : groups.flatten.Nodup := flat ▸ arises.nodup_order
  have edge := (TypeGraph.refers_ofRegistry result.registry source target).mpr dependency
  have listed : source ∈ groups.flatten := by
    rw [← flat, arises.mem_order_iff, ← TypeGraph.mem_vertices_ofRegistry]
    exact TypeGraph.rooted_ofRegistry result.registry source target edge
  rw [arises.order_eq, Registry.dependencyOrder, cycles] at apart
  rw [flat]
  rcases emission.before_or_mutual nodup listed edge with before | both
  · exact before
  · exfalso
    apply apart
    by_cases same : source = target
    · subst same
      rcases (emission.mem_cycle_iff nodup listed).mpr (.inr edge) with ⟨cycle, member, inside⟩
      exact ⟨cycle, member, inside, inside⟩
    · exact (emission.mem_same_cycle_iff nodup listed same).mpr both.symm

/-- An entry that takes effect gives its module to a type. -/
theorem effective_owns {key name : String} (effective : config.Effective result.registry key name)
    (closed : ∀ {key id}, result.registry.lookup? key = some id →
      ∃ node, result.registry.node? id = some node) :
    ∃ id, result.registry.moduleOf? id = some name := by
  rcases effective with ⟨id, assigns, least⟩
  rcases closed assigns.2 with ⟨node, found⟩
  refine ⟨id, ?_⟩
  rw [Registry.moduleOf?_eq found]
  rcases arises.owner_cases found with
    ⟨other, module, also, leastOther, owner⟩ | ⟨unassigned, _⟩
  · have same := String.le_antisymm (leastOther key name assigns) (least other module also)
    have first := (config.typeModules.mem_entries_iff).mp assigns.1
    rw [← same, (config.typeModules.mem_entries_iff).mp also.1] at first
    rw [owner, ← Option.some.inj first]
  · exact absurd ⟨key, name, assigns⟩ unassigned

/-- A type is owned because of an entry that takes effect or because an operation reaches it. -/
theorem effective_of_owned {id : TypeId} {name : String}
    (owned : result.registry.moduleOf? id = some name) :
    (∃ entry ∈ document.operations, entry.moduleName config.fallbackModule = name) ∨
      ∃ key, config.Effective result.registry key name := by
  rcases Option.bind_eq_some_iff.mp owned with ⟨node, found, owner⟩
  rcases arises.owner_cases found with
    ⟨key, module, assigns, least, also⟩ | ⟨_, ⟨other, reaches, _, also⟩ | ⟨_, free⟩⟩
  · rw [owner] at also
    cases also
    exact .inr ⟨key, id, assigns, least⟩
  · rw [owner] at also
    cases also
    left
    by_contra foreign
    push Not at foreign
    exact arises.not_reaches foreign id reaches
  · rw [owner] at free
    cases free

end Build.Arises

/-! ## Warnings -/

/-- The warnings for the entries of the configuration that name no type. -/
def Config.unknownTypes (config : Config) (registry : Registry) : List Warning :=
  (config.typeModules.entries.filter fun entry => !registry.isBound entry.1).map fun entry =>
    .unknownConfiguredType entry.1 entry.2

theorem flatMap_unknownType? (registry : Registry) (entries : Entries String) :
    (entries.flatMap fun entry => (unknownType? registry entry.1 entry.2).toList) =
      (entries.filter fun entry => !registry.isBound entry.1).map fun entry =>
        .unknownConfiguredType entry.1 entry.2 := by
  induction entries with
  | nil => rfl
  | cons entry rest induction =>
      rw [List.flatMap_cons, induction, unknownType?]
      cases bound : registry.lookup? entry.1 <;> simp [Registry.isBound, bound]

namespace Build.Arises

variable {document : Document} {config : Config} {progress : Progress} {grouped : ModuleMap}
  {result : Build} (arises : result.Arises document config progress grouped)

include arises

theorem warnings_eq :
    result.statistics.warnings =
      progress.statistics.warnings ++ config.unknownTypes result.registry := by
  rcases arises.exists_counts with ⟨explicit, reached, _, _, statistics⟩
  have bound : progress.registry.isBound = result.registry.isBound := by
    funext name
    rw [Registry.isBound, Registry.isBound, arises.lookup?]
  rw [statistics, Config.unknownTypes, ← bound, ← flatMap_unknownType?, partitionStart,
    Statistics.recordCycles_eq]

theorem unconfigured : ∀ warning ∈ progress.statistics.warnings, warning.isConfigured = false := by
  rcases statistics_convertComponents arises.converted.components with
    ⟨aliases, total, _, alike, statistics⟩
  have components := document.unconfigured_componentTally
    (convertComponents document {}).state.registry.names
  have operations : (Tally.sum (document.operations.map document.operationTally)).Unconfigured := by
    apply Tally.Unconfigured.sum
    intro tally member
    rcases List.mem_map.mp member with ⟨entry, _, rfl⟩
    exact document.unconfigured_operationTally entry
  rw [arises.converted.statistics, statistics]
  simp only [Statistics.charge, List.nil_append]
  intro warning member
  rcases List.mem_append.mp member with member | member
  · exact components warning (alike.warnings.mem_iff.mp member)
  · exact operations warning member

end Build.Arises

/-! ## The partition -/

/-- Modules are known by the names that they are kept under. The list of a module is the dependency
order restricted to the types that the module owns. So a type stands in the list of its owner once
and in no other, and a direct dependency stands before its dependent unless both are on one cycle.
The modules are those of the operations and of the entries of the configuration that take effect;
entries that name no type are warned of, last and in the order of their keys. -/
theorem build_modules {document : Document} {config : Config} {result : Build}
    (built : build document config = .ok result) :
    result.order = result.registry.dependencyOrder ∧
      (∀ name module, result.module? name = some module →
        module.name = name ∧
          module.types = result.order.order.filter (fun id =>
            decide (result.registry.moduleOf? id = some name)) ∧
          module.types.Nodup ∧
          ∀ source ∈ module.types, ∀ target ∈ module.types,
            target ∈ result.registry.dependencies source →
            (¬∃ cycle ∈ result.order.cycles, source ∈ cycle ∧ target ∈ cycle) →
              module.types.idxOf target < module.types.idxOf source) ∧
      (∀ id node, result.registry.node? id = some node → ∀ name,
        (∃ module, result.module? name = some module ∧ id ∈ module.types) ↔
          node.module = some name) ∧
      (∀ name, (result.module? name).isSome ↔
        (∃ entry ∈ document.operations, entry.moduleName config.fallbackModule = name) ∨
          ∃ key, config.Effective result.registry key name) ∧
      ∃ earlier, result.statistics.warnings = earlier ++ config.unknownTypes result.registry ∧
        ∀ type module, Warning.unknownConfiguredType type module ∉ earlier := by
  rcases exists_arises built with ⟨progress, grouped, arises⟩
  refine ⟨arises.order_eq, ?_, ?_, ?_, progress.statistics.warnings, arises.warnings_eq, ?_⟩
  · intro name module found
    have types := arises.types_eq found
    have nodup : module.types.Nodup := types ▸ arises.nodup_order.filter _
    refine ⟨arises.named name module found, types, nodup, ?_⟩
    intro source _ target targetInside dependency apart
    have sorted : module.types.Pairwise fun left right =>
        result.order.order.idxOf left ≤ result.order.order.idxOf right := by
      rw [types]
      exact (pairwise_idxOf arises.nodup_order).sublist List.filter_sublist
    exact idxOf_lt_of_pairwise sorted targetInside (arises.before_of_dependency dependency apart)
  · intro id node found name
    rw [arises.mem_types_iff, Registry.moduleOf?_eq found]
  · intro name
    have closed {key : String} {id : TypeId} (bound : result.registry.lookup? key = some id) :
        ∃ node, result.registry.node? id = some node := by
      rw [arises.lookup?] at bound
      rcases arises.converted.complete.faithful.leads bound with ⟨node, _, found, _⟩
      have registered : id < result.registry.size := by
        rw [arises.size]
        exact Registry.lt_size_of_node? found
      exact ⟨result.registry.nodes[id], List.getElem?_eq_getElem registered⟩
    rw [arises.module?_isSome]
    constructor
    · intro reason
      rcases reason with operation | ⟨id, owned⟩
      · exact .inl operation
      · exact arises.effective_of_owned owned
    · intro reason
      rcases reason with operation | ⟨key, effective⟩
      · exact .inl operation
      · exact .inr (arises.effective_owns effective closed)
  · intro type module member
    have other := arises.unconfigured _ member
    cases other

theorem build_modules_openPetShop :
    ∃ result, build .openPetShop .petShop = .ok result ∧ (result.module? "pets").isSome ∧
      (∃ earlier, result.statistics.warnings =
        earlier ++ Config.petShop.unknownTypes result.registry) ∧
      ∀ name module, result.module? name = some module →
        module.types = (result.order.order.filter fun id =>
          decide (result.registry.moduleOf? id = some name)) := by
  rcases openPetShop_builds with ⟨result, built⟩
  rcases build_modules built with ⟨_, lists, _, modules, earlier, warnings, _⟩
  refine ⟨result, built, (modules "pets").mpr (.inl ?_), ⟨earlier, warnings⟩, ?_⟩
  · exact ⟨_, List.mem_singleton.mpr rfl, rfl⟩
  · intro name module found
    exact (lists name module found).2.1

end ApiGraph
