namespace ApiGraph.CommandLine

/-! The texts that the program has about itself. -/

def programName : String := "sdkgraph"

def versionText : String := programName ++ " 0.4.0"

/-- What becomes of a line of help: a name or switch, and what it is for. -/
structure HelpEntry where
  lead : String
  purpose : String

def HelpEntry.line (entry : HelpEntry) (width : Nat) : String :=
  "  " ++ entry.lead ++ "".pushn ' ' (width - entry.lead.length) ++ "  " ++ entry.purpose

def helpSection (title : String) (entries : List HelpEntry) : List String :=
  let width := (entries.map fun entry => entry.lead.length).foldl max 0
  if entries.isEmpty then [] else ["", title ++ ":"] ++ entries.map (·.line width)

structure HelpPage where
  purpose : String
  usage : String
  commands : List HelpEntry := []
  arguments : List HelpEntry := []
  options : List HelpEntry := []

def HelpPage.text (page : HelpPage) : String :=
  "\n".intercalate (
    [page.purpose, "", "Usage: " ++ programName ++ page.usage] ++
    helpSection "Commands" page.commands ++ helpSection "Arguments" page.arguments ++
    helpSection "Options" page.options)

/-! ## Entries -/

def colorHelp : HelpEntry :=
  ⟨"    --color <COLOR>",
    "Control color output [default: auto] [possible values: always, auto, never]"⟩

def themeHelp : HelpEntry :=
  ⟨"    --theme <THEME>",
    "Terminal theme (dark or light background) " ++
      "[default: auto] [possible values: dark, light, auto]"⟩

def inputHelp : HelpEntry :=
  ⟨"-i, --input <FILE>", "Path to the OpenAPI description (JSON or YAML)"⟩

def configHelp : HelpEntry :=
  ⟨"-c, --config <FILE>", "Module configuration mapping type names to modules (JSON or YAML)"⟩

def outputHelp : HelpEntry :=
  ⟨"-o, --output <FILE>", "Where the JSON report is written; stdout when omitted"⟩

def verboseHelp : HelpEntry :=
  ⟨"-v, --verbose", "Enable verbose output with cycle details and warnings"⟩

def quietHelp : HelpEntry := ⟨"-q, --quiet", "Suppress non-essential output (errors only)"⟩

def helpHelp : HelpEntry := ⟨"-h, --help", "Print help"⟩

def versionHelp : HelpEntry := ⟨"-V, --version", "Print version"⟩

def listPurpose : String := "List information from an OpenAPI description"

def operationsPurpose : String := "List all operations with the handler names they build into"

def modulesPurpose : String := "List modules with their handler and type counts"

def buildPurpose : String := "Build the type graph and write it as a JSON report"

def helpPurpose : String := "Print this message or the help of the given subcommand(s)"

def helpCommandHelp : HelpEntry := ⟨"help", helpPurpose⟩

/-! ## Pages -/

def programHelp : HelpPage where
  purpose := "OpenAPI to SDK type graph builder"
  usage := " [OPTIONS] <COMMAND>"
  commands := [⟨"list", listPurpose⟩, ⟨"build", buildPurpose⟩, helpCommandHelp]
  options := [colorHelp, themeHelp, helpHelp, versionHelp]

def listHelp : HelpPage where
  purpose := listPurpose
  usage := " list [OPTIONS] <COMMAND>"
  commands :=
    [⟨"operations", operationsPurpose⟩, ⟨"modules", modulesPurpose⟩, helpCommandHelp]
  options := [colorHelp, themeHelp, helpHelp]

def operationsHelp : HelpPage where
  purpose := operationsPurpose
  usage := " list operations [OPTIONS] --input <FILE>"
  options := [inputHelp, colorHelp, themeHelp, helpHelp]

def modulesHelp : HelpPage where
  purpose := modulesPurpose
  usage := " list modules [OPTIONS] --input <FILE>"
  options := [inputHelp, configHelp, colorHelp, themeHelp, helpHelp]

def buildHelp : HelpPage where
  purpose := buildPurpose
  usage := " build [OPTIONS] --input <FILE>"
  options :=
    [inputHelp, configHelp, colorHelp, outputHelp, themeHelp, verboseHelp, quietHelp, helpHelp]

/-- The help for a command that gives help itself, and stands behind the text `before`. -/
def helpHelpPage (before : String) : HelpPage where
  purpose := helpPurpose
  usage := before ++ " help [COMMAND]..."
  arguments := [⟨"[COMMAND]...", "Print help for the subcommand(s)"⟩]

/-- The help for the command of these names. -/
def helpPage (names : List String) : HelpPage :=
  match names with
  | ["list"] => listHelp
  | ["list", "operations"] => operationsHelp
  | ["list", "modules"] => modulesHelp
  | ["list", "help"] => helpHelpPage " list"
  | ["build"] => buildHelp
  | ["help"] => helpHelpPage ""
  | _ => programHelp

end ApiGraph.CommandLine
