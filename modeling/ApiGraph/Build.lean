import ApiGraph.Conversion.Operation
import ApiGraph.Partition

namespace ApiGraph

/-! A build turns a description into a graph of types that is divided into modules. -/

structure Build where
  info : Info
  config : Config
  registry : Registry
  modules : ModuleMap
  order : DependencyOrder
  statistics : Statistics

/-- Add a handler to a module, which is made when it does not exist. -/
def addHandler (modules : ModuleMap) (name : String) (handler : Handler) : ModuleMap :=
  modules.alter name fun module? =>
    let module := module?.getD { name := name }
    { module with handlers := module.handlers ++ [handler] }

namespace SchemaConversion

variable {m : Type → Type} [Monad m] (schemas : SchemaConversion m)

/-- Convert operations and group their handlers by module. -/
def operations (document : Document) (fallback : String) (modules : ModuleMap) :
    List OperationEntry → ConvertingIn m ModuleMap
  | [] => return modules
  | entry :: rest => do
      let handler ← schemas.operation document entry
      operations document fallback (addHandler modules (entry.moduleName fallback) handler) rest

/-- Convert the components of a document and then its operations. -/
def document (document : Document) (fallback : String) : ConvertingIn m ModuleMap := do
  schemas.components
  schemas.operations document fallback .empty document.operations

end SchemaConversion

def convertOperations (document : Document) (fallback : String) (modules : ModuleMap)
    (entries : List OperationEntry) : Converting ModuleMap :=
  document.schemaConversion.operations document fallback modules entries

@[simp] theorem convertOperations_nil (document : Document) (fallback : String)
    (modules : ModuleMap) : convertOperations document fallback modules [] = pure modules := rfl

theorem convertOperations_cons (document : Document) (fallback : String) (modules : ModuleMap)
    (entry : OperationEntry) (rest : List OperationEntry) :
    convertOperations document fallback modules (entry :: rest) =
      (convertOperation document entry >>= fun handler =>
        convertOperations document fallback
          (addHandler modules (entry.moduleName fallback) handler) rest) := rfl

def convertDocument (document : Document) (fallback : String) : Converting ModuleMap :=
  document.schemaConversion.document document fallback

theorem convertDocument_eq (document : Document) (fallback : String) :
    convertDocument document fallback = (Converting.ofStep (convertComponents document) >>= fun _ =>
      convertOperations document fallback .empty document.operations) := rfl

def Registry.cycleNames (registry : Registry) (order : DependencyOrder) : List (List String) :=
  order.cycles.map fun cycle => cycle.map registry.nameOf

/-- Build the type graph of a document. The first error ends the build. -/
def build (document : Document) (config : Config) : Except BuildError Build :=
  match (convertDocument document config.fallbackModule).run {} with
  | (.error error, _) => .error error
  | (.ok modules, progress) =>
      let order := progress.registry.dependencyOrder
      let statistics := progress.statistics.recordCycles (progress.registry.cycleNames order)
      let partition := partitionTypes config order ⟨progress.registry, modules, statistics⟩
      .ok {
        info := document.info
        config := config
        registry := partition.registry
        modules := partition.modules
        order := order
        statistics := partition.statistics }

namespace Build

def module? (result : Build) (name : String) : Option Module := result.modules.value? name

/-- The named type of a name or alias. -/
def type? (result : Build) (name : String) : Option TypeNode := result.registry.nodeNamed? name

/-- The module that owns a type. -/
def moduleOf? (result : Build) (type : String) : Option String :=
  (result.type? type).bind (·.module)

def pageInfo? (result : Build) (handler : Handler) : Option Handler.PageInfo :=
  handler.pageInfo? result.registry result.config.pageIndexCandidates
    result.config.pageSizeCandidates

end Build

end ApiGraph
