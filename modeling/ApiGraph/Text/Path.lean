import ApiGraph.Text

namespace ApiGraph.Text

/-! File names. Slashes separate the parts of a path; empty parts and parts that are a single point
lead nowhere. -/

/-- The parts of a path that lead somewhere. -/
def pathParts (path : List Char) : List (List Char) :=
  (pieces '/' path).filter fun part => !part.isEmpty && part != ['.']

def isAbsolute (path : List Char) : Bool := path.head? == some '/'

/-- The path of these parts. -/
def pathText (absolute : Bool) (parts : List (List Char)) : String :=
  (if absolute then "/" else "") ++ "/".intercalate (parts.map String.ofList)

/-- The name of the file that a path leads to, unless it leads to a parent. -/
def fileName? (path : List Char) : Option (List Char) :=
  match (pathParts path).getLast? with
  | some name => if name = ['.', '.'] then none else some name
  | none => none

/-- The text behind the last point of the file name. A point at the beginning hides a file and
starts no extension. -/
def extension? (path : List Char) : Option (List Char) := do
  let name ← fileName? path
  let behind := lastPiece '.' name
  if behind.length + 1 < name.length then some behind else none

example : extension? "a/b.yaml/".toList = some "yaml".toList := by decide
example : extension? "dir/.yaml".toList = none := by decide
example : extension? "a.".toList = some [] := by decide

end ApiGraph.Text
