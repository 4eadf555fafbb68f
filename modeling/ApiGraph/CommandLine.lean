import ApiGraph.CommandLine.Building
import ApiGraph.CommandLine.Help
import ApiGraph.CommandLine.Listing

namespace ApiGraph.CommandLine

open Terminal (Style Theme)

/-! The program as a whole. -/

/-- How a run ends. -/
inductive Outcome where
  | success
  | failure (message : String)
  | usageError
  deriving DecidableEq, Repr

def Outcome.code : Outcome → Nat
  | .success => 0
  | .failure _ => 1
  | .usageError => 2

section Run

variable {m : Type → Type} [Monad m] (system : System m)

def styleOf (invocation : Invocation) : Style where
  colored :=
    match invocation.color with
    | .always => true
    | .never => false
    | .auto => system.isTerminal
  theme :=
    match invocation.theme with
    | .dark => .dark
    | .light => .light
    | .auto => .ofBackground system.terminalColors

def runCommand (style : Style) : Command → Action m Unit
  | .build options => runBuild system style options
  | .listOperations input => runListOperations system input
  | .listModules input config => runListModules system input config

def runRequest : Request → m Outcome
  | .invalid => return .usageError
  | .version => do
      system.print (versionText ++ "\n")
      return .success
  | .help names => do
      system.print ((helpPage names).text ++ "\n")
      return .success
  | .run invocation => do
      match ← (runCommand system (styleOf system invocation) invocation.command).run with
      | .ok _ => return .success
      | .error message => return .failure message

/-- Run the program with its arguments. -/
def run (arguments : List String) : m Outcome := runRequest system (parse arguments)

end Run

end ApiGraph.CommandLine
