import ApiGraph.Config
import ApiGraph.Dependency.Order
import ApiGraph.Handler
import ApiGraph.Statistics

namespace ApiGraph

/-! Which module owns which named type.

The configuration comes first and is final. Every other type goes to the first module, in the order
of names, that reaches it through its handlers. What nothing reaches has no module. -/

structure Partition where
  registry : Registry
  modules : ModuleMap
  statistics : Statistics

namespace Partition

/-- Add a type to a module, which is made when it does not exist. -/
def addType (modules : ModuleMap) (name : String) (id : TypeId) : ModuleMap :=
  modules.alter name fun module? =>
    let module := module?.getD { name := name }
    { module with types := module.types ++ [id] }

/-- Assign a type to a module, unless it has one, and count the assignment. -/
def assign (partition : Partition) (count : Statistics → Statistics) (module : String)
    (id : TypeId) : Partition :=
  match partition.registry.assignModule id module with
  | (false, _) => partition
  | (true, registry) =>
      { registry := registry
        modules := addType partition.modules module id
        statistics := count partition.statistics }

/-- Carry out one assignment of the configuration. -/
def assignConfigured (partition : Partition) (type module : String) : Partition :=
  match partition.registry.lookup? type with
  | some id => partition.assign Statistics.countExplicitAssignment module id
  | none =>
      { partition with
        statistics := partition.statistics.warn (.unknownConfiguredType type module) }

/-- The types that the handlers of a module reach. -/
def reached (graph : TypeGraph) (module : Module) : List TypeId :=
  graph.reachable (module.handlers.flatMap Handler.roots)

/-- Assign to a module all types that it reaches and that nothing has claimed before. -/
def assignReached (partition : Partition) (name : String) (ids : List TypeId) : Partition :=
  ids.foldl (fun partition id => partition.assign Statistics.countReachabilityAssignment name id)
    partition

/-- Put the types of every module into dependency order, and count what is there. -/
def finish (partition : Partition) (order : DependencyOrder) : Partition :=
  let unassigned := partition.registry.nodes.countP fun node => node.module.isNone
  { partition with
    modules := partition.modules.mapValues fun _ module =>
      { module with types := order.sort module.types }
    statistics :=
      (partition.statistics.countUnassigned unassigned).countModules partition.modules.size }

end Partition

/-- Distribute the types of a registry over modules. -/
def partitionTypes (config : Config) (order : DependencyOrder) (start : Partition) : Partition :=
  let configured := config.typeModules.entries.foldl
    (fun partition (type, module) => partition.assignConfigured type module) start
  let graph := TypeGraph.ofRegistry configured.registry
  let assigned := configured.modules.entries.foldl
    (fun partition (_, module) =>
      partition.assignReached module.name (Partition.reached graph module)) configured
  assigned.finish order

end ApiGraph
