import ApiGraph.Text

namespace ApiGraph.Pointer

/-! References inside a description. A reference is a pointer to a reusable component: a section of
the components and a name in it, with `~1` for a slash and `~0` for a tilde in the name. -/

/-- Every reference to a component begins like this. -/
def componentsLead : List Char := "#/components/".toList

/-- Every reference into the same document begins like this. -/
def documentLead : List Char := "#/".toList

/-- The name that a pointer segment stands for. Slashes are restored before tildes, so that `~01`
stands for `~1`. -/
def unescape (segment : List Char) : List Char :=
  Text.replacePair '~' '0' '~' (Text.replacePair '~' '1' '/' segment)

/-- The segment that stands for a name. -/
def escape : List Char → List Char
  | [] => []
  | c :: rest =>
      if c = '~' then '~' :: '0' :: escape rest
      else if c = '/' then '~' :: '1' :: escape rest
      else c :: escape rest

example : unescape (escape "a/~1".toList) = "a/~1".toList := by decide
example : unescape "~01".toList = "~1".toList := by decide

/-- The name in a reference to a component of the given section. -/
def component? (reference area : String) : Option String := do
  let afterLead ← Text.after? componentsLead reference.toList
  let afterArea ← Text.after? area.toList afterLead
  let segment ← Text.after? ['/'] afterArea
  if segment.isEmpty || segment.contains '/' then none
  else some (String.ofList (unescape segment))

/-- The section that schemas are declared in. -/
def schemaArea : String := "schemas"

/-- The name of the schema that a reference means: the component it points to, or else the last
segment of any pointer into the document. -/
def schema? (reference : String) : Option String :=
  match component? reference schemaArea with
  | some name => some name
  | none => do
      let pointer ← Text.after? documentLead reference.toList
      let segment := Text.lastPiece '/' pointer
      if segment.isEmpty then none else some (String.ofList (unescape segment))

example : schema? "#/components/schemas/Nested~1Pet" = some "Nested/Pet" := by decide +kernel
example : schema? "#/definitions/Pet" = some "Pet" := by decide +kernel
example : schema? "other.yaml#/components/schemas/Pet" = none := by decide +kernel

end ApiGraph.Pointer
