namespace ApiGraph.Yaml

/-! The tokens of YAML text. Block collections are marked off by indentation, and their tokens stand
where the indentation changes. -/

/-- A tag as it is written: a handle and the octets that follow it. A tag that is written out in
full has an empty handle. -/
structure TagText where
  handle : List Char
  suffix : List UInt8
  deriving DecidableEq, Repr

inductive Token where
  /-- The version that a text is written for. -/
  | version (major minor : Nat)
  /-- The declaration of a handle, with the octets that it stands for. -/
  | handle (handle : List Char) (lead : List UInt8)
  | documentStart
  | documentEnd
  | blockListStart
  | blockMapStart
  | blockEnd
  | flowListStart
  | flowListEnd
  | flowMapStart
  | flowMapEnd
  | blockEntry
  | flowEntry
  | key
  | value
  | alias (name : List Char)
  | anchor (name : List Char)
  | tag (text : TagText)
  /-- A scalar; one that is not plain is quoted or stands in a block of its own. -/
  | scalar (text : List Char) (plain : Bool)
  deriving DecidableEq, Repr

end ApiGraph.Yaml
