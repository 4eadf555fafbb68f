import ApiGraph.Proofs.Conversion.Result
import ApiGraph.Proofs.Partition.Contents
import Mathlib

namespace ApiGraph

/-! # The parts of a build

A build is the partition of what the conversion of its document hands on. The types are those of the
conversion but for their owners, and so are the dependencies between them; the lists of the modules
say again what the types say of their owners. -/

open ApiGraph.Partition

/-- The state between the conversion of a document and the partition. -/
def partitionStart (progress : Progress) (modules : ModuleMap) : Partition where
  registry := progress.registry
  modules := modules
  statistics := progress.statistics.recordCycles
    (progress.registry.cycleNames progress.registry.dependencyOrder)

/-- A build from what its document was converted to. -/
structure Build.Arises (result : Build) (document : Document) (config : Config)
    (progress : Progress) (grouped : ModuleMap) : Prop where
  converted : Converted document config.fallbackModule grouped progress
  info : result.info = document.info
  given : result.config = config
  registry : result.registry = (assigned config (partitionStart progress grouped)).registry
  modules : result.modules = ((assigned config (partitionStart progress grouped)).finish
    progress.registry.dependencyOrder).modules
  order : result.order = progress.registry.dependencyOrder
  statistics : result.statistics = ((assigned config (partitionStart progress grouped)).finish
    progress.registry.dependencyOrder).statistics

/-- A build converts its document under the fallback module of the configuration; nothing else of the
configuration has a part in that. -/
theorem exists_converts_of_build {document : Document} {config : Config} {result : Build}
    (built : build document config = .ok result) :
    ∃ progress grouped,
      (convertDocument document config.fallbackModule).run {} = (.ok grouped, progress) := by
  unfold build at built
  rcases converted : (convertDocument document config.fallbackModule).run {} with
    ⟨outcome, progress⟩
  rw [converted] at built
  cases outcome with
  | error error => cases built
  | ok grouped => exact ⟨progress, grouped, rfl⟩

theorem arises_of_converts {document : Document} {config : Config} {progress : Progress}
    {grouped : ModuleMap}
    (converts : (convertDocument document config.fallbackModule).run {} =
      (.ok grouped, progress)) :
    ∃ result, build document config = .ok result ∧
      result.Arises document config progress grouped := by
  have success := converted_of_success converts
  unfold build
  rw [converts]
  dsimp only
  rw [partitionTypes_eq success.named]
  exact ⟨_, rfl, success, rfl, rfl, rfl, rfl, rfl, rfl⟩

/-- A build fails only where the conversion does. -/
theorem exists_build {document : Document} {config : Config}
    (success : ((convertDocument document config.fallbackModule).run {}).1.toBool = true) :
    ∃ result, build document config = .ok result := by
  rcases converts : (convertDocument document config.fallbackModule).run {} with
    ⟨outcome, progress⟩
  rw [converts] at success
  rcases exists_eq_ok_of_toBool success with ⟨grouped, rfl⟩
  rcases arises_of_converts converts with ⟨result, built, _⟩
  exact ⟨result, built⟩

theorem exists_arises {document : Document} {config : Config} {result : Build}
    (built : build document config = .ok result) :
    ∃ progress grouped, result.Arises document config progress grouped := by
  rcases exists_converts_of_build built with ⟨progress, grouped, converts⟩
  rcases arises_of_converts converts with ⟨other, rebuilt, arises⟩
  rw [built] at rebuilt
  cases rebuilt
  exact ⟨progress, grouped, arises⟩

theorem Statistics.recordCycles_eq (statistics : Statistics) (cycles : List (List String)) :
    statistics.recordCycles cycles = { statistics with
      cyclesDetected := statistics.cyclesDetected + cycles.length
      cycles := statistics.cycles ++ cycles } := by
  induction cycles generalizing statistics with
  | nil => simp [recordCycles]
  | cons cycle rest induction =>
      rw [recordCycles, List.foldl_cons, ← recordCycles, induction, recordCycle]
      simp [Nat.add_comm 1, Nat.add_assoc]

theorem Registry.withoutModules_eq {registry : Registry}
    (unowned : ∀ id, registry.moduleOf? id = none) : registry.withoutModules = registry := by
  have nodes : (registry.nodes.map fun node => { node with module := none }) = registry.nodes := by
    apply List.ext_getElem?
    intro id
    rw [List.getElem?_map]
    cases found : registry.nodes[id]? with
    | none => rfl
    | some node =>
        have free := unowned id
        rw [moduleOf?_eq found] at free
        rw [Option.map_some, ← free]
  rw [withoutModules, nodes]

/-! ## The start of the partition -/

namespace Converted

variable {document : Document} {fallback : String} {grouped : ModuleMap} {progress : Progress}
  (converted : Converted document fallback grouped progress)

include converted

theorem complete : progress.registry.Complete document := by
  rw [converted.registry]
  exact complete_convertComponents converted.components

theorem unowned (id : TypeId) : progress.registry.moduleOf? id = none := by
  cases found : progress.registry.node? id with
  | none => rw [Registry.moduleOf?, found, Option.bind_none]
  | some node => rw [Registry.moduleOf?_eq found, converted.complete.faithful.unowned found]

theorem typesOf (name : String) : typesOf grouped name = [] := by
  rcases converted.handled with ⟨handled, _, rfl⟩
  rw [typesOf_addHandlers]
  rfl

theorem value?_isSome (name : String) :
    (grouped.value? name).isSome ↔
      ∃ entry ∈ document.operations, entry.moduleName fallback = name := by
  rcases converted.handled with ⟨handled, handles, rfl⟩
  rw [value?_addHandlers_isSome, ← handles.entries]
  have empty : (NameMap.empty.value? name : Option Module).isSome = false := rfl
  simp [empty]

theorem agrees : (partitionStart progress grouped).Agrees := by
  intro name id
  rw [partitionStart]
  simp [converted.unowned, converted.typesOf]

end Converted

/-! ## The result -/

namespace Build.Arises

variable {document : Document} {config : Config} {progress : Progress} {grouped : ModuleMap}
  {result : Build} (arises : result.Arises document config progress grouped)

include arises

theorem types : result.registry.withoutModules = progress.registry := by
  rcases exists_grants config (partitionStart progress grouped) with ⟨requests, grants⟩
  rw [arises.registry, grants.types]
  exact Registry.withoutModules_eq arises.converted.unowned

theorem lookup? (name : String) : result.registry.lookup? name = progress.registry.lookup? name := by
  rw [← arises.types, Registry.lookup?_withoutModules]

theorem size : result.registry.size = progress.registry.size := by
  rw [← arises.types, Registry.size_withoutModules]

theorem nameOf (id : TypeId) : result.registry.nameOf id = progress.registry.nameOf id := by
  rw [← arises.types, Registry.nameOf_withoutModules]

theorem closed : result.registry.IsClosed := by
  have closed := arises.converted.complete.faithful.closed
  rw [← arises.types] at closed
  intro node member target inside
  have held := closed { node with module := none } (List.mem_map_of_mem member) target inside
  rwa [Registry.size_withoutModules] at held

theorem order_eq : result.order = result.registry.dependencyOrder := by
  rw [arises.order, ← arises.types, Registry.dependencyOrder, Registry.dependencyOrder,
    TypeGraph.ofRegistry_withoutModules]

theorem distinct : (Entries.names result.registry.bindings).Nodup := by
  have distinct := arises.converted.complete.faithful.distinct
  rw [← arises.types] at distinct
  exact distinct

theorem nodup_order : result.order.order.Nodup := by
  rcases TypeGraph.exists_emission (TypeGraph.closed_ofRegistry arises.closed)
    (TypeGraph.nodup_vertices_ofRegistry result.registry) with ⟨_, _, _, _, perm⟩
  rw [arises.order_eq]
  exact perm.nodup_iff.mpr (TypeGraph.nodup_vertices_ofRegistry result.registry)

theorem mem_order_iff (id : TypeId) : id ∈ result.order.order ↔ id < result.registry.size := by
  rcases TypeGraph.exists_emission (TypeGraph.closed_ofRegistry arises.closed)
    (TypeGraph.nodup_vertices_ofRegistry result.registry) with ⟨_, _, _, _, perm⟩
  rw [arises.order_eq, ← TypeGraph.mem_vertices_ofRegistry]
  exact perm.mem_iff

/-! ### Modules -/

theorem agrees : (assigned config (partitionStart progress grouped)).Agrees := by
  rcases exists_grants config (partitionStart progress grouped) with ⟨requests, grants⟩
  exact grants.agrees arises.converted.agrees

theorem named : result.modules.Named := by
  rcases exists_grants config (partitionStart progress grouped) with ⟨requests, grants⟩
  have named := grants.named arises.converted.named
  intro name module found
  rw [arises.modules, Partition.finish, NameMap.value?_mapValues] at found
  rcases Option.map_eq_some_iff.mp found with ⟨unsorted, held, rfl⟩
  exact named name unsorted held

theorem nodup_typesOf (name : String) :
    (typesOf (assigned config (partitionStart progress grouped)).modules name).Nodup := by
  rcases advances_configured config (partitionStart progress grouped) with ⟨_, first⟩
  rcases advances_assigned config (partitionStart progress grouped) with ⟨_, second⟩
  have agrees := arises.converted.agrees
  refine second.distinct ((grants_configured config _).agrees agrees) (first.distinct agrees ?_) name
  intro name
  rw [partitionStart, arises.converted.typesOf]
  exact List.nodup_nil

/-- The types of a module are what the order has of the types that belong to it. -/
theorem typesOf_eq (name : String) :
    typesOf result.modules name =
      result.order.order.filter fun id => decide (result.registry.moduleOf? id = some name) := by
  have sorted : typesOf result.modules name =
      result.order.sort
        (typesOf (assigned config (partitionStart progress grouped)).modules name) := by
    rw [arises.modules, arises.order, typesOf, partOf, Partition.finish, NameMap.value?_mapValues,
      partOf]
    cases (assigned config (partitionStart progress grouped)).modules.value? name <;>
      simp [DependencyOrder.sort]
  have member (id : TypeId) :
      id ∈ typesOf (assigned config (partitionStart progress grouped)).modules name ↔
        result.registry.moduleOf? id = some name := by
    rw [arises.registry]
    exact arises.agrees name id
  rw [sorted, DependencyOrder.sort_eq_filter arises.nodup_order (arises.nodup_typesOf name)]
  · simp only [member]
  · intro id inside
    exact (arises.mem_order_iff id).mpr (Registry.lt_size_of_moduleOf? ((member id).mp inside))

theorem handlersOf_eq (name : String) :
    handlersOf result.modules name = handlersOf grouped name := by
  rcases exists_grants config (partitionStart progress grouped) with ⟨requests, grants⟩
  rw [arises.modules, handlersOf_finish, grants.handlers]
  rfl

/-- A module is there because of an operation or because of a type. -/
theorem module?_isSome (name : String) :
    (result.module? name).isSome ↔
      (∃ entry ∈ document.operations, entry.moduleName config.fallbackModule = name) ∨
        ∃ id, result.registry.moduleOf? id = some name := by
  rcases advances_configured config (partitionStart progress grouped) with ⟨_, first⟩
  rcases advances_assigned config (partitionStart progress grouped) with ⟨_, second⟩
  have present : (result.module? name).isSome ↔
      ((assigned config (partitionStart progress grouped)).modules.value? name).isSome := by
    rw [Build.module?, arises.modules, Partition.finish, NameMap.value?_mapValues,
      Option.isSome_map]
  have holds : typesOf (assigned config (partitionStart progress grouped)).modules name ≠ [] ↔
      ∃ id, result.registry.moduleOf? id = some name := by
    rw [arises.registry]
    constructor
    · intro held
      rcases List.exists_mem_of_ne_nil _ held with ⟨id, member⟩
      exact ⟨id, (arises.agrees name id).mp member⟩
    · intro owned
      rcases owned with ⟨id, owned⟩
      exact List.ne_nil_of_mem ((arises.agrees name id).mpr owned)
  have kept : typesOf (configured config (partitionStart progress grouped)).modules name ≠ [] →
      typesOf (assigned config (partitionStart progress grouped)).modules name ≠ [] := by
    intro held empty
    have grown := second.grows name
    rw [empty] at grown
    exact held (List.prefix_nil.mp grown)
  have start : ((partitionStart progress grouped).modules.value? name).isSome ↔
      ∃ entry ∈ document.operations, entry.moduleName config.fallbackModule = name :=
    arises.converted.value?_isSome name
  rw [present, second.modules, first.modules, start, ← holds, or_assoc, or_iff_right_of_imp kept]

/-! ### Statistics -/

theorem exists_counts :
    ∃ explicit reached,
      (configured config (partitionStart progress grouped)).registry.owned = explicit ∧
      result.registry.owned = explicit + reached ∧
      result.statistics = { (partitionStart progress grouped).statistics with
        explicitAssignments :=
          (partitionStart progress grouped).statistics.explicitAssignments + explicit
        reachabilityAssignments :=
          (partitionStart progress grouped).statistics.reachabilityAssignments + reached
        unassignedTypes := (partitionStart progress grouped).statistics.unassignedTypes +
          result.registry.nodes.countP fun node => node.module.isNone
        modules := (partitionStart progress grouped).statistics.modules + result.modules.size
        warnings := (partitionStart progress grouped).statistics.warnings ++
          config.typeModules.entries.flatMap fun entry =>
            (unknownType? progress.registry entry.1 entry.2).toList } := by
  rcases advances_configured config (partitionStart progress grouped) with ⟨explicit, first⟩
  rcases advances_assigned config (partitionStart progress grouped) with ⟨reached, second⟩
  have none : (partitionStart progress grouped).registry.owned = 0 := by
    rw [Registry.owned, List.countP_eq_zero]
    intro node member
    rcases List.mem_iff_getElem?.mp member with ⟨id, found⟩
    have free : (partitionStart progress grouped).registry.moduleOf? id = Option.none :=
      arises.converted.unowned id
    rw [Registry.moduleOf?_eq found] at free
    simp [free]
  refine ⟨explicit, reached, ?_, ?_, ?_⟩
  · rw [first.owned, none, Nat.zero_add]
  · rw [arises.registry, second.owned, first.owned, none, Nat.zero_add]
  · rw [arises.statistics, arises.modules, arises.registry, Partition.finish, second.statistics,
      first.statistics]
    simp [Statistics.grant, Statistics.countUnassigned, Statistics.countModules, NameMap.size,
      NameMap.mapValues, partitionStart]

end Build.Arises

end ApiGraph
