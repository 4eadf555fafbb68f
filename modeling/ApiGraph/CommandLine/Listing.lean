import ApiGraph.CommandLine.System
import ApiGraph.Report
import ApiGraph.Terminal.Table

namespace ApiGraph.CommandLine

open Terminal (Table)

/-! The commands that list what a build consists of. -/

/-! ## Tables -/

structure OperationRow where
  handler : String
  method : String
  path : String
  module : String
  deriving DecidableEq, Repr

/-- The handlers of a build in the order of their names. Those of the same name stay in the order of
their modules. -/
def operationRows (result : Build) : List OperationRow :=
  let rows := result.modules.entries.flatMap fun (_, module) =>
    module.handlers.map fun handler => ⟨handler.name, handler.method, handler.path, module.name⟩
  rows.mergeSort fun left right => decide (left.handler ≤ right.handler)

def operationTable (result : Build) : Table where
  columns := [⟨"HANDLER", .left⟩, ⟨"METHOD", .right⟩, ⟨"PATH", .left⟩, ⟨"MODULE", .left⟩]
  rows := (operationRows result).map fun row => [row.handler, row.method, row.path, row.module]

def moduleTable (result : Build) : Table where
  columns := [⟨"MODULE", .left⟩, ⟨"HANDLERS", .right⟩, ⟨"TYPES", .left⟩]
  rows := result.modules.entries.map fun (_, module) =>
    [module.name, toString module.handlers.length,
      ", ".intercalate (module.types.map result.registry.nameOf)]

/-! ## The commands -/

section List

variable {m : Type → Type} [Monad m] (system : System m)

def buildFrom (input : String) (config : Config) : Action m Build := do
  let document ← system.loadDocument input
  match build document config with
  | .ok result => return result
  | .error error => throw error.message

def runListOperations (input : String) : Action m Unit := do
  let result ← buildFrom system input {}
  system.printLine (operationTable result).text

def runListModules (input : String) (config : Option String) : Action m Unit := do
  let config ← system.loadConfig config
  let result ← buildFrom system input config
  system.printLine (moduleTable result).text
  if !result.unassigned.isEmpty then
    system.printLine ("Unassigned: " ++ ", ".intercalate result.unassigned)

end List

end ApiGraph.CommandLine
