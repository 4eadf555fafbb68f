import ApiGraph.CommandLine.System

namespace ApiGraph.CommandLine

/-! A model of the world outside: a tree of files in memory, and the text that has been printed. On
it the program is an ordinary function. -/

/-- A place in a tree of files: the names that lead to it from the root. -/
abbrev FilePlace := List String

inductive FileEntry where
  | file (content : List UInt8)
  | directory
  deriving DecidableEq, Repr

structure FileTree where
  entries : List (FilePlace × FileEntry) := []
  /-- The directory that paths start from, unless they start from the root. -/
  working : FilePlace := ["work"]

namespace FileTree

/-! ## Places -/

def held? (tree : FileTree) (place : FilePlace) : Option FileEntry :=
  if place.isPrefixOf tree.working then some .directory else tree.entries.lookup place

def put (tree : FileTree) (place : FilePlace) (entry : FileEntry) : FileTree :=
  { tree with entries := (place, entry) :: tree.entries }

/-- The octets that a name may have. -/
def nameLimit : Nat := 255

/-- The octets that a path may have. -/
def pathLimit : Nat := 4095

/-- The place that parts of a path lead to. Every part but the first is looked for in a directory,
and only the last place may be missing. -/
def follow (tree : FileTree) (place : FilePlace) : List (List Char) → Except FileFault FilePlace
  | [] => .ok place
  | part :: parts =>
      match tree.held? place with
      | none => .error .missing
      | some (.file _) => .error .notDirectory
      | some .directory =>
          let name := String.ofList part
          if part.isEmpty ∨ part = ['.'] then tree.follow place parts
          else if part = ['.', '.'] then tree.follow place.dropLast parts
          else if nameLimit < name.utf8ByteSize then .error .nameTooLong
          else tree.follow (place ++ [name]) parts

def locate (tree : FileTree) (path : String) : Except FileFault FilePlace :=
  let start := if Text.isAbsolute path.toList then [] else tree.working
  if pathLimit < path.utf8ByteSize then .error .nameTooLong
  else tree.follow start (Text.pieces '/' path.toList)

def find? (tree : FileTree) (path : String) : Option FileEntry :=
  match tree.locate path with
  | .ok place => tree.held? place
  | .error _ => none

example :
    (put {} ["work", "a.json"] (.file [])).find? "./a.json" = some (.file []) := by decide +kernel
example : (put {} ["work", "a.json"] (.file [])).find? "missing/../a.json" = none := by
  decide +kernel

/-! ## Effects -/

def read (tree : FileTree) (path : String) : Option (List UInt8) :=
  match tree.find? path with
  | some (.file content) => some content
  | _ => none

def isDirectory (tree : FileTree) (path : String) : Bool := tree.find? path = some .directory

def makeDirectory (tree : FileTree) (path : String) : Except FileFault FileTree := do
  let place ← tree.locate path
  if (tree.held? place).isSome then .error .taken else .ok (tree.put place .directory)

def write (tree : FileTree) (path text : String) : Except FileFault FileTree := do
  let place ← tree.locate path
  if tree.held? place = some .directory then .error .isDirectory
  else .ok (tree.put place (.file text.toUTF8.toList))

end FileTree

/-- A tree of files and what has been printed while working on it. -/
structure Session where
  files : FileTree
  output : String := ""
  errors : String := ""

/-- Change the files, unless there is a fault. -/
def Session.change (change : FileTree → Except FileFault FileTree) :
    StateM Session (Option FileFault) :=
  modifyGet fun session =>
    match change session.files with
    | .ok files => (none, { session with files := files })
    | .error fault => (some fault, session)

/-- The model as a system, where every time is the given one. -/
def Session.system (time : String) (terminalColors : Option String) : System (StateM Session) where
  read path := return (← get).files.read path
  isDirectory path := return (← get).files.isDirectory path
  makeDirectory path := Session.change (·.makeDirectory path)
  write path text := Session.change (·.write path text)
  time := return time
  print text := modify fun session => { session with output := session.output ++ text }
  printError text := modify fun session => { session with errors := session.errors ++ text }
  isTerminal := false
  terminalColors := terminalColors

end ApiGraph.CommandLine
