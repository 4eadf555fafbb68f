import ApiGraph.Proofs.Checked.Order
import ApiGraph.Proofs.Conversion.Accesses
import ApiGraph.Proofs.Partition.Ownership

namespace ApiGraph

/-! # The partition with checked accesses

A type is accessed in order to be given to a module. What a module reaches is told by the graph alone,
which is made from the registry before. -/

/-- The owners of types make no difference to where numbers lead. -/
theorem Registry.inBounds_withoutModules {registry : Registry} :
    registry.withoutModules.InBounds ↔ registry.InBounds := by
  have size : registry.withoutModules.size = registry.size := size_withoutModules
  constructor
  · intro bounds
    refine ⟨size ▸ bounds.bound, size ▸ bounds.pending, ?_⟩
    intro node member child inside target mentioned
    rw [← size]
    exact bounds.mentioned { node with module := none } (List.mem_map_of_mem member) child inside
      target mentioned
  · intro bounds
    refine ⟨size.symm ▸ bounds.bound, size.symm ▸ bounds.pending, ?_⟩
    intro node member child inside target mentioned
    rcases List.mem_map.mp member with ⟨owned, held, rfl⟩
    rw [size]
    exact bounds.mentioned owned held child inside target mentioned

namespace Checked

theorem foldlM_eq_some {σ α : Type} (Holds : σ → Prop) {step? : σ → α → Option σ}
    {step : σ → α → σ} {values : List α} {state : σ}
    (each : ∀ state, Holds state → ∀ value ∈ values,
      step? state value = some (step state value) ∧ Holds (step state value))
    (holds : Holds state) :
    values.foldlM step? state = some (values.foldl step state) ∧
      Holds (values.foldl step state) := by
  induction values generalizing state with
  | nil => exact ⟨rfl, holds⟩
  | cons value rest induction =>
      rcases each state holds value List.mem_cons_self with ⟨succeeds, kept⟩
      rw [List.foldlM_cons, succeeds, List.foldl_cons]
      apply induction _ kept
      intro state holds other member
      exact each state holds other (List.mem_cons_of_mem _ member)

def assign (partition : Partition) (count : Statistics → Statistics) (module : String)
    (id : TypeId) : Option Partition :=
  (partition.registry.node? id).map fun _ => partition.assign count module id

def assignConfigured (partition : Partition) (type module : String) : Option Partition :=
  match partition.registry.lookup? type with
  | some id => assign partition Statistics.countExplicitAssignment module id
  | none =>
      some { partition with
        statistics := partition.statistics.warn (.unknownConfiguredType type module) }

def assignReached (partition : Partition) (name : String) (ids : List TypeId) :
    Option Partition :=
  ids.foldlM (fun partition id => assign partition Statistics.countReachabilityAssignment name id)
    partition

def configured (config : Config) (start : Partition) : Option Partition :=
  config.typeModules.entries.foldlM
    (fun partition entry => assignConfigured partition entry.1 entry.2) start

/-- Give every module what it reaches. -/
def assigned (graph : TypeGraph) (configured : Partition) : Option Partition :=
  configured.modules.entries.foldlM
    (fun partition entry =>
      assignReached partition entry.2.name (Partition.reached graph entry.2)) configured

def partitionTypes (config : Config) (order : DependencyOrder) (start : Partition) :
    Option Partition :=
  (configured config start).bind fun configured =>
    (graph configured.registry).bind fun graph =>
      (assigned graph configured).map fun assigned => assigned.finish order

/-! ## No access fails -/

section Partition

variable {partition start : Partition} {id : TypeId}

theorem assign_eq (count : Statistics → Statistics) (module : String)
    (registered : id < partition.registry.size) :
    assign partition count module id = some (partition.assign count module id) := by
  have found : partition.registry.node? id = some partition.registry.nodes[id] :=
    List.getElem?_eq_getElem registered
  rw [assign, found, Option.map_some]

theorem assignConfigured_eq (bounds : partition.registry.InBounds) (type module : String) :
    assignConfigured partition type module = some (partition.assignConfigured type module) := by
  unfold assignConfigured Partition.assignConfigured
  cases bound : partition.registry.lookup? type with
  | some id => exact assign_eq _ module (bounds.lt_size_of_lookup? bound)
  | none => rfl

theorem assignReached_eq (name : String) {ids : List TypeId}
    (registers : partition.registry.Registers ids) :
    assignReached partition name ids = some (partition.assignReached name ids) := by
  refine (foldlM_eq_some (fun state => state.registry.size = partition.registry.size) ?_ rfl).1
  intro state same id member
  refine ⟨assign_eq _ name (same ▸ registers id member), ?_⟩
  exact (Partition.grants_assign state _ name id).size.trans same

theorem configured_eq (config : Config) (bounds : start.registry.InBounds) :
    configured config start = some (Partition.configured config start) ∧
      (Partition.configured config start).registry.InBounds := by
  refine foldlM_eq_some (fun partition : Partition => partition.registry.InBounds) ?_ bounds
  intro partition bounds entry _
  refine ⟨assignConfigured_eq bounds entry.1 entry.2, ?_⟩
  have grants := Partition.grants_assignConfigured partition entry.1 entry.2
  rw [← Registry.inBounds_withoutModules, grants.types, Registry.inBounds_withoutModules]
  exact bounds

/-- A module reaches types of the registry only. -/
theorem assigned_eq (partition : Partition) :
    assigned (.ofRegistry partition.registry) partition =
      some (partition.modules.entries.foldl (fun state entry =>
        state.assignReached entry.2.name
          (Partition.reached (.ofRegistry partition.registry) entry.2)) partition) := by
  refine (foldlM_eq_some (fun state => state.registry.size = partition.registry.size) ?_ rfl).1
  intro state same entry _
  refine ⟨assignReached_eq entry.2.name ?_, ?_⟩
  · intro id member
    rw [same]
    exact TypeGraph.lt_size_of_mem_reachable member
  · exact (Partition.grants_assignReached state entry.2.name _).size.trans same

theorem partitionTypes_eq (config : Config) (order : DependencyOrder)
    (bounds : start.registry.InBounds) :
    partitionTypes config order start = some (ApiGraph.partitionTypes config order start) := by
  rcases configured_eq config bounds with ⟨succeeds, kept⟩
  rw [partitionTypes, succeeds, Option.bind_some, graph_eq kept.closed, Option.bind_some,
    assigned_eq]
  rfl

end Partition

end Checked

end ApiGraph
