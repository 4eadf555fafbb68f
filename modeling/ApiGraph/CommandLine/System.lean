import ApiGraph.Config
import ApiGraph.Document.Reader
import ApiGraph.Source.Format

namespace ApiGraph.CommandLine

/-! What a command does to the world outside. Commands are written against a `System`, so the same
command runs on a machine and, for reasoning, on a model of one. -/

/-- What went wrong with a file or directory, with the number that it is known by. -/
structure FileFault where
  code : Nat
  reason : String
  deriving DecidableEq, Repr

namespace FileFault

def missing : FileFault := ⟨2, "No such file or directory"⟩

def taken : FileFault := ⟨17, "File exists"⟩

def notDirectory : FileFault := ⟨20, "Not a directory"⟩

def isDirectory : FileFault := ⟨21, "Is a directory"⟩

def nameTooLong : FileFault := ⟨36, "File name too long"⟩

def isMissing (fault : FileFault) : Bool := fault.code == missing.code

def message (fault : FileFault) : String :=
  fault.reason ++ " (os error " ++ toString fault.code ++ ")"

end FileFault

structure System (m : Type → Type) where
  /-- The content of a file, if it can be opened. -/
  read : (path : String) → m (Option (List UInt8))
  isDirectory : (path : String) → m Bool
  /-- Make a single directory; gives the fault if there is one. -/
  makeDirectory : (path : String) → m (Option FileFault)
  /-- Write a file; gives the fault if there is one. -/
  write : (path text : String) → m (Option FileFault)
  /-- The time of day as text. -/
  time : m String
  print : (text : String) → m Unit
  printError : (text : String) → m Unit
  /-- Whether the standard output is a terminal. -/
  isTerminal : Bool
  /-- The colors that the terminal says it has. -/
  terminalColors : Option String

/-- A command that may fail with a message. -/
abbrev Action (m : Type → Type) := ExceptT String m

namespace System

variable {m : Type → Type} [Monad m] (system : System m)

def printLine (line : String) : Action m Unit := system.print (line ++ "\n")

def printErrorLine (line : String) : Action m Unit := system.printError (line ++ "\n")

/-! ## Reading files -/

/-- Read a file in the format of its name. -/
def loadAs {α : Type} (read : Source.Text → Except Source.Fault α) (path : String) :
    Action m α := do
  match ← system.read path with
  | none => throw ("failed to open " ++ path)
  | some content =>
      match read ((Source.Format.ofPath path).source content) with
      | .ok value => return value
      | .error _ => throw ("failed to parse " ++ path)

def loadDocument (path : String) : Action m Document := system.loadAs Document.ofSource path

/-- Without a file the configuration is the default one. -/
def loadConfig : (path : Option String) → Action m Config
  | none => return {}
  | some path => system.loadAs Config.ofSource path

/-! ## Writing files -/

/-- Make a directory; one that is there already will do. -/
def ensureDirectory (path : String) : Action m Unit := do
  match ← system.makeDirectory path with
  | none => return ()
  | some fault => if !(← system.isDirectory path) then throw fault.message

/-- Make the directory that parts of a path lead to, the last part first, and the directories around
it as far as they are missing. -/
def ensureDirectories (absolute : Bool) : (parts : List (List Char)) → Action m Unit
  | [] => return ()
  | part :: outer => do
      let path := Text.pathText absolute (part :: outer).reverse
      match ← system.makeDirectory path with
      | none => return ()
      | some fault =>
          if fault.isMissing then
            ensureDirectories absolute outer
            system.ensureDirectory path
          else if !(← system.isDirectory path) then throw fault.message

/-- Write a file and the directories that lead to it. -/
def save (path text : String) : Action m Unit := do
  let directory := (Text.pathParts path.toList).dropLast
  system.ensureDirectories (Text.isAbsolute path.toList) directory.reverse
  if (← system.write path text).isSome then throw ("failed to write " ++ path)

end System

end ApiGraph.CommandLine
