import ApiGraph.CommandLine.Arguments
import ApiGraph.CommandLine.System
import ApiGraph.Report
import ApiGraph.Terminal.Palette

namespace ApiGraph.CommandLine

open Terminal (Role Style)

/-! The command that builds the type graph and writes its report. It tells its progress line by
line: on the standard output, unless the report itself goes there. -/

/-! ## Statistics as text -/

/-- A statistic with its label, which those that continue the one before have not. -/
structure StatisticLine where
  label : String
  value : String
  deriving DecidableEq, Repr

/-- A line that is only there for a count other than zero. -/
def StatisticLine.unlessZero (count : Nat) (line : StatisticLine) : List StatisticLine :=
  if count = 0 then [] else [line]

def statisticLines (statistics : Statistics) : List StatisticLine :=
  [⟨"Named types:", toString statistics.namedTypes⟩] ++
  StatisticLine.unlessZero statistics.aliases ⟨"", toString statistics.aliases ++ " aliases"⟩ ++
  [⟨"", toString statistics.anonymousTypes ++ " anonymous types"⟩,
    ⟨"Handlers converted:", toString statistics.handlersConverted⟩,
    ⟨"Modules:", toString statistics.modules⟩,
    ⟨"Assigned types:", toString statistics.explicitAssignments ++ " explicit, " ++
      toString statistics.reachabilityAssignments ++ " by reachability"⟩] ++
  StatisticLine.unlessZero statistics.unassignedTypes
    ⟨"Unassigned types:", toString statistics.unassignedTypes⟩ ++
  StatisticLine.unlessZero statistics.warnings.length
    ⟨"Warnings:", toString statistics.warnings.length⟩ ++
  StatisticLine.unlessZero statistics.cyclesDetected
    ⟨"Cycles:", toString statistics.cyclesDetected⟩

def StatisticLine.text (line : StatisticLine) (style : Style) : String :=
  "".pushn ' ' 12 ++ style.paint .label line.label ++ " " ++ style.paint .value line.value

/-- The cycles, counted from one. -/
def cycleLines (style : Style) (cycles : List (List String)) : List String :=
  cycles.zipIdx.map fun (cycle, index) =>
    "".pushn ' ' 14 ++ style.paint .cycle ("Cycle " ++ toString (index + 1)) ++ ": " ++
      style.paint .detail (" -> ".intercalate cycle)

def warningLine (style : Style) (warning : Warning) : String :=
  style.paint .warning "Warning:" ++ " " ++ style.paint .detail warning.message

/-! ## The command -/

section Build

variable {m : Type → Type} [Monad m] (system : System m) (style : Style) (options : BuildOptions)

def logLine (line : String) : Action m Unit :=
  if options.verbosity = .quiet then pure ()
  else if options.output.isNone then system.printErrorLine line
  else system.printLine line

/-- Tell something with the time at which it happens. -/
def logEvent (role : Role) (message : String) : Action m Unit := do
  let time ← system.time
  logLine system options (style.paint .timestamp time ++ " " ++ style.paint role message)

def logStatistics (statistics : Statistics) : Action m Unit := do
  for line in statisticLines statistics do
    logLine system options (line.text style)
  if options.verbosity = .verbose then
    for line in cycleLines style statistics.cycles do
      logLine system options line
    if !statistics.warnings.isEmpty then
      system.printErrorLine ""
      for warning in statistics.warnings do
        system.printErrorLine (warningLine style warning)

def writeReport (report : String) : Action m Unit :=
  match options.output with
  | none => system.printLine report
  | some path => system.save path report

def runBuild : Action m Unit := do
  let log := logEvent system style options .progress
  log ("Loading OpenAPI description from: " ++ options.input)
  if let some path := options.config then
    log ("Loading module configuration from: " ++ path)
  let document ← system.loadDocument options.input
  let config ← system.loadConfig options.config
  log "Building type graph..."
  match build document config with
  | .error error => throw error.message
  | .ok result =>
      logStatistics system style options result.statistics
      log ("Writing report to: " ++ options.output.getD "stdout")
      writeReport system options result.report.text
      logLine system options ""
      logEvent system style options .success "Successfully built type graph"

end Build

end ApiGraph.CommandLine
