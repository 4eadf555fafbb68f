import ApiGraph.Json.Text
import ApiGraph.Text.Path
import ApiGraph.Yaml.Text

namespace ApiGraph.Source

/-! The formats that files are written in. The extension of a file tells its format; whatever is not
marked as YAML is JSON. -/

inductive Format where
  | json
  | yaml
  deriving DecidableEq, Repr

namespace Format

def ofExtension (extension : List Char) : Format :=
  let extension := extension.map Char.toLower
  if extension = "yaml".toList ∨ extension = "yml".toList then .yaml else .json

def ofPath (path : String) : Format :=
  match Text.extension? path.toList with
  | some extension => ofExtension extension
  | none => .json

def source : Format → List UInt8 → Source.Text
  | .json => Json.source
  | .yaml => Yaml.source

example : ofPath "openapi.YML" = .yaml := by decide
example : ofPath "openapi.yaml.bak" = .json := by decide

end Format

end ApiGraph.Source
