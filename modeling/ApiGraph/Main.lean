import ApiGraph.CommandLine
import Std.Time

/-! The program on a machine. -/

namespace ApiGraph.CommandLine.Machine

/-- A number in two digits. -/
def twoDigits (value : Int) : String := (if value < 10 then "0" else "") ++ toString value

def currentTime : IO String := do
  let now := (← Std.Time.PlainDateTime.now).time
  let parts := [twoDigits now.hour.val, twoDigits now.minute.val, twoDigits now.second.val]
  return "[" ++ ":".intercalate parts ++ "]"

def readContent (path : String) : IO (Option (List UInt8)) := do
  try
    return some (← IO.FS.readBinFile path).toList
  catch _ => return none

def faultOf : IO.Error → FileFault
  | .noFileOrDirectory _ code reason => ⟨code.toNat, reason⟩
  | .alreadyExists _ code reason => ⟨code.toNat, reason⟩
  | .inappropriateType _ code reason => ⟨code.toNat, reason⟩
  | .permissionDenied _ code reason => ⟨code.toNat, reason⟩
  | .invalidArgument _ code reason => ⟨code.toNat, reason⟩
  | .resourceExhausted _ code reason => ⟨code.toNat, reason⟩
  | .otherError code reason => ⟨code.toNat, reason⟩
  | error => ⟨0, toString error⟩

/-- Do something with files, and tell of the fault that stops it. -/
def attempt (action : IO Unit) : IO (Option FileFault) := do
  try
    action
    return none
  catch error => return some (faultOf error)

def isDirectory (path : String) : IO Bool := do
  try
    return (← (← IO.FS.realPath path).isDir)
  catch _ => return false

def system (isTerminal : Bool) (terminalColors : Option String) : System IO where
  read := readContent
  isDirectory := isDirectory
  makeDirectory path := attempt (IO.FS.createDir path)
  write path text := attempt (IO.FS.writeFile path text)
  time := currentTime
  print := IO.print
  printError := IO.eprint
  isTerminal := isTerminal
  terminalColors := terminalColors

end ApiGraph.CommandLine.Machine

open ApiGraph.CommandLine

def main (arguments : List String) : IO UInt32 := do
  let isTerminal ← (← IO.getStdout).isTty
  let system := Machine.system isTerminal (← IO.getEnv "COLORFGBG")
  let outcome ← run system arguments
  match outcome with
  | .success => pure ()
  | .failure message => IO.eprintln ("Error: " ++ message)
  | .usageError => IO.eprintln (helpPage []).text
  return outcome.code.toUInt32
