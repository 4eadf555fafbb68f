import ApiGraph.Entries
import ApiGraph.Text

namespace ApiGraph.CommandLine

/-! The arguments of the program. Commands are nested; every command has switches of its own, and
those of the whole program may stand behind any of them. -/

/-! ## Switches -/

/-- What a switch takes. A flag takes nothing. -/
inductive Takes where
  | nothing
  | file
  | oneOf (values : List String)
  deriving DecidableEq, Repr

def Takes.accepts : Takes → String → Bool
  | .nothing, _ => false
  | .file, value => !value.isEmpty
  | .oneOf values, value => values.contains value

structure Switch where
  name : String
  letter : Option Char
  takes : Takes
  deriving DecidableEq, Repr

def colorSwitch : Switch := ⟨"color", none, .oneOf ["always", "auto", "never"]⟩

def themeSwitch : Switch := ⟨"theme", none, .oneOf ["dark", "light", "auto"]⟩

/-- The switches of the whole program. -/
def commonSwitches : List Switch := [colorSwitch, themeSwitch]

def inputSwitch : Switch := ⟨"input", some 'i', .file⟩

def configSwitch : Switch := ⟨"config", some 'c', .file⟩

def outputSwitch : Switch := ⟨"output", some 'o', .file⟩

def verboseSwitch : Switch := ⟨"verbose", some 'v', .nothing⟩

def quietSwitch : Switch := ⟨"quiet", some 'q', .nothing⟩

/-- What may stand behind the name of a command. -/
structure Level where
  switches : List Switch := []
  commands : List String := []
  /-- Whether the version of the program can be asked for. -/
  hasVersion : Bool := false

def Level.allSwitches (level : Level) : List Switch := level.switches ++ commonSwitches

def Level.switchNamed? (level : Level) (name : String) : Option Switch :=
  level.allSwitches.find? fun switch => switch.name == name

def Level.switchLettered? (level : Level) (letter : Char) : Option Switch :=
  level.allSwitches.find? fun switch => switch.letter == some letter

/-! ## Scanning -/

/-- The switches that were given at one level, with their values. -/
abbrev Given := Entries String

/-- How the arguments of a level end. -/
inductive LevelEnd where
  | finished (given : Given)
  /-- The name of a command behind switches, unless the last of them is refused. -/
  | command (given : Option Given) (name : String) (rest : List String)
  | help
  /-- Help for the command that the names lead to. -/
  | helpFor (names : List String)
  | version
  | invalid

/-- Note a switch, which may be given only once, with a value that it accepts. -/
def note? (given : Given) (switch : Switch) (value : String) : Option Given :=
  if (Entries.value? given switch.name).isSome then none
  else if switch.takes = .nothing ∨ switch.takes.accepts value then
    some (given ++ [(switch.name, value)])
  else none

/-- What a single argument does. -/
inductive Effect where
  | noted (given : Given)
  /-- A switch whose value is the next argument. -/
  | awaits (given : Given) (switch : Switch)
  | done (levelEnd : LevelEnd)

def Effect.ofNote : Option Given → Effect
  | some given => .noted given
  | none => .done .invalid

/-- A switch by its letter, with others behind it. The text behind a switch that takes a value is
the value. -/
def letters (level : Level) (given : Given) : List Char → Effect
  | [] => .noted given
  | letter :: rest =>
      match level.switchLettered? letter with
      | none =>
          if letter = 'h' then .done .help
          else if letter = 'V' ∧ level.hasVersion then .done .version
          else .done .invalid
      | some switch =>
          if switch.takes = .nothing then
            match note? given switch "" with
            | some given => letters level given rest
            | none => .done .invalid
          else
            match rest with
            | [] => .awaits given switch
            | '=' :: value => .ofNote (note? given switch (String.ofList value))
            | value => .ofNote (note? given switch (String.ofList value))

/-- A switch by its name, which a value may be attached to. -/
def named (level : Level) (given : Given) (text : List Char) : Effect :=
  let name := String.ofList (Text.firstPiece '=' text)
  let attached := (text.dropWhile (· != '=')).tail?.map String.ofList
  match level.switchNamed? name, attached with
  | some switch, none =>
      if switch.takes = .nothing then .ofNote (note? given switch "") else .awaits given switch
  | some switch, some value =>
      if switch.takes = .nothing then .done .invalid else .ofNote (note? given switch value)
  | none, none =>
      if name = "help" then .done .help
      else if name = "version" ∧ level.hasVersion then .done .version
      else .done .invalid
  | none, some _ => .done .invalid

def isSwitch (argument : String) : Bool :=
  argument.toList.head? == some '-' && argument != "-"

/-- What a switch and those attached to it do. -/
def Effect.ofSwitch (level : Level) (given : Given) : List Char → Effect
  | '-' :: '-' :: text => named level given text
  | text => letters level given text.tail

/-- A switch with the argument that is its value. -/
abbrev Awaited := Option (Switch × String)

/-- Note the switch whose value was the last argument. -/
def settle? (given : Given) : Awaited → Option Given
  | none => some given
  | some (switch, value) => note? given switch value

/-- The arguments of one level. Only the name of a command may stand among the switches. The value
of a switch in an argument of its own is judged only when another switch follows or the arguments
end, so help for a command may come before that. -/
def scanLevel (level : Level) (given : Given) (awaited : Awaited) : List String → LevelEnd
  | [] =>
      match settle? given awaited with
      | some given => .finished given
      | none => .invalid
  | argument :: rest =>
      if argument = "--" then
        if rest.isEmpty then scanLevel level given awaited rest else .invalid
      else if isSwitch argument then
        match settle? given awaited with
        | none => .invalid
        | some given =>
            match Effect.ofSwitch level given argument.toList, rest with
            | .noted given, rest => scanLevel level given none rest
            | .awaits given switch, value :: rest =>
                if isSwitch value then .invalid
                else scanLevel level given (some (switch, value)) rest
            | .awaits _ _, [] => .invalid
            | .done levelEnd, _ => levelEnd
      else if level.commands.contains argument then
        .command (settle? given awaited) argument rest
      else if argument = "help" ∧ !level.commands.isEmpty then .helpFor rest
      else .invalid

/-! ## Commands -/

inductive ColorMode where
  | always
  | auto
  | never
  deriving DecidableEq, Repr

inductive ThemeMode where
  | dark
  | light
  | auto
  deriving DecidableEq, Repr

/-- How much a build tells about itself. -/
inductive Verbosity where
  | quiet
  | normal
  | verbose
  deriving DecidableEq, Repr

structure BuildOptions where
  input : String
  config : Option String
  /-- The file for the report, which otherwise goes to the standard output. -/
  output : Option String
  verbosity : Verbosity
  deriving DecidableEq, Repr

inductive Command where
  | build (options : BuildOptions)
  | listOperations (input : String)
  | listModules (input : String) (config : Option String)
  deriving DecidableEq, Repr

structure Invocation where
  color : ColorMode
  theme : ThemeMode
  command : Command
  deriving DecidableEq, Repr

/-- What the arguments ask for. -/
inductive Request where
  | run (invocation : Invocation)
  /-- Help for the command of these names. -/
  | help (names : List String)
  | version
  | invalid
  deriving DecidableEq, Repr

def ColorMode.ofGiven (given : Given) : ColorMode :=
  match Entries.value? given colorSwitch.name with
  | some "always" => .always
  | some "never" => .never
  | _ => .auto

def ThemeMode.ofGiven (given : Given) : ThemeMode :=
  match Entries.value? given themeSwitch.name with
  | some "dark" => .dark
  | some "light" => .light
  | _ => .auto

/-- The command of switches. `outer` are the switches that stand before its name; those of the
program count where they stand last. -/
def invoke (outer given : Given) (command : Command) : Request :=
  .run ⟨.ofGiven (given ++ outer), .ofGiven (given ++ outer), command⟩

def verbosity? (given : Given) : Option Verbosity :=
  match Entries.value? given verboseSwitch.name, Entries.value? given quietSwitch.name with
  | none, none => some .normal
  | some _, none => some .verbose
  | none, some _ => some .quiet
  | some _, some _ => none

def buildCommand? (given : Given) : Option Command := do
  let input ← Entries.value? given inputSwitch.name
  let verbosity ← verbosity? given
  return .build {
    input := input
    config := Entries.value? given configSwitch.name
    output := Entries.value? given outputSwitch.name
    verbosity := verbosity }

def listOperationsCommand? (given : Given) : Option Command :=
  (Entries.value? given inputSwitch.name).map .listOperations

def listModulesCommand? (given : Given) : Option Command :=
  (Entries.value? given inputSwitch.name).map fun input =>
    .listModules input (Entries.value? given configSwitch.name)

/-! ## The program -/

def programLevel : Level where
  commands := ["list", "build"]
  hasVersion := true

def listLevel : Level where
  commands := ["operations", "modules"]

def buildLevel : Level where
  switches := [inputSwitch, configSwitch, outputSwitch, verboseSwitch, quietSwitch]

def operationsLevel : Level where
  switches := [inputSwitch]

def modulesLevel : Level where
  switches := [inputSwitch, configSwitch]

/-- The commands that help can be asked for. -/
def helpTopics : List (List String) :=
  [[], ["list"], ["list", "operations"], ["list", "modules"], ["list", "help"], ["build"], ["help"]]

def helpRequest (names : List String) : Request :=
  if helpTopics.contains names then .help names else .invalid

/-- The request of a command that has no further commands. Where switches before its name are
refused there is no `outer`, and it can only give help. -/
def leafRequest (names : List String) (level : Level) (command : Given → Option Command)
    (outer : Option Given) (arguments : List String) : Request :=
  match scanLevel level [] none arguments with
  | .finished given =>
      match outer, command given with
      | some outer, some command => invoke outer given command
      | _, _ => .invalid
  | .help => .help names
  | _ => .invalid

/-- The switches of two levels. -/
def together? (outer given : Option Given) : Option Given := do return (← given) ++ (← outer)

def listRequest (outer : Option Given) (arguments : List String) : Request :=
  match scanLevel listLevel [] none arguments with
  | .command given "operations" rest =>
      leafRequest ["list", "operations"] operationsLevel listOperationsCommand?
        (together? outer given) rest
  | .command given "modules" rest =>
      leafRequest ["list", "modules"] modulesLevel listModulesCommand? (together? outer given) rest
  | .help => .help ["list"]
  | .helpFor names => helpRequest ("list" :: names)
  | _ => .invalid

def parse (arguments : List String) : Request :=
  match scanLevel programLevel [] none arguments with
  | .command given "build" rest => leafRequest ["build"] buildLevel buildCommand? given rest
  | .command given "list" rest => listRequest given rest
  | .help => .help []
  | .helpFor names => helpRequest names
  | .version => .version
  | _ => .invalid

example : parse ["build", "-vi", "api.json"] =
    .run ⟨.auto, .auto, .build ⟨"api.json", none, none, .verbose⟩⟩ := by decide +kernel
example : parse ["--color", "red", "build", "-h"] = .help ["build"] := by decide +kernel
example : parse ["--color=red", "build", "-h"] = .invalid := by decide +kernel
example : parse ["--color=always", "list", "operations", "-iapi.yaml"] =
    .run ⟨.always, .auto, .listOperations "api.yaml"⟩ := by decide +kernel

end ApiGraph.CommandLine
