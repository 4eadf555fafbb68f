namespace ApiGraph

/-! What a build counts, and the conditions that it passes over with a warning. -/

inductive Warning where
  /-- An enumeration whose names do not match its values one by one. -/
  | invalidEnumMetadata (location : String) (values names : Nat)
  /-- A schema without a recognizable shape. -/
  | unsupportedSchema (location : String)
  /-- A module assignment for a type that does not exist. -/
  | unknownConfiguredType (type module : String)
  deriving DecidableEq, Repr

def Warning.message : Warning → String
  | .invalidEnumMetadata location values names =>
      location ++ ": " ++ toString values ++ " enum values but " ++ toString names ++
        " enum names, names ignored"
  | .unsupportedSchema location =>
      location ++ ": schema has no recognizable shape, treated as unknown"
  | .unknownConfiguredType type module =>
      "Configured type '" ++ type ++ "' for module '" ++ module ++ "' does not exist"

structure Statistics where
  namedTypes : Nat := 0
  aliases : Nat := 0
  anonymousTypes : Nat := 0
  handlersConverted : Nat := 0
  modules : Nat := 0
  explicitAssignments : Nat := 0
  reachabilityAssignments : Nat := 0
  unassignedTypes : Nat := 0
  cycles : List (List String) := []
  cyclesDetected : Nat := 0
  warnings : List Warning := []
  deriving DecidableEq, Repr

namespace Statistics

def countNamedType (statistics : Statistics) : Statistics :=
  { statistics with namedTypes := statistics.namedTypes + 1 }

def countAlias (statistics : Statistics) : Statistics :=
  { statistics with aliases := statistics.aliases + 1 }

def countAnonymousType (statistics : Statistics) : Statistics :=
  { statistics with anonymousTypes := statistics.anonymousTypes + 1 }

def countHandler (statistics : Statistics) : Statistics :=
  { statistics with handlersConverted := statistics.handlersConverted + 1 }

def countModules (statistics : Statistics) (count : Nat) : Statistics :=
  { statistics with modules := statistics.modules + count }

def countExplicitAssignment (statistics : Statistics) : Statistics :=
  { statistics with explicitAssignments := statistics.explicitAssignments + 1 }

def countReachabilityAssignment (statistics : Statistics) : Statistics :=
  { statistics with reachabilityAssignments := statistics.reachabilityAssignments + 1 }

def countUnassigned (statistics : Statistics) (count : Nat) : Statistics :=
  { statistics with unassignedTypes := statistics.unassignedTypes + count }

def recordCycle (statistics : Statistics) (cycle : List String) : Statistics :=
  { statistics with
    cyclesDetected := statistics.cyclesDetected + 1
    cycles := statistics.cycles ++ [cycle] }

def recordCycles (statistics : Statistics) (cycles : List (List String)) : Statistics :=
  cycles.foldl recordCycle statistics

def warn (statistics : Statistics) (warning : Warning) : Statistics :=
  { statistics with warnings := statistics.warnings ++ [warning] }

end Statistics

end ApiGraph
