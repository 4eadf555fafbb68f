import ApiGraph.Document.Schema

namespace ApiGraph

/-! Descriptions of interfaces. All entries are in the order of their declaration. -/

inductive ParameterLocation where
  | query
  | header
  | path
  | cookie
  deriving DecidableEq, Repr

def ParameterLocation.name : ParameterLocation → String
  | .query => "query"
  | .header => "header"
  | .path => "path"
  | .cookie => "cookie"

def ParameterLocation.all : List ParameterLocation := [.query, .header, .path, .cookie]

structure Parameter where
  name : String
  location : ParameterLocation
  description : Option String := none
  required : Bool := false
  schema : Option SchemaSlot := none

/-- The schemas of a body by media type. -/
abbrev BodyContent := Entries (Option SchemaSlot)

structure RequestBody where
  description : Option String := none
  required : Bool := false
  content : BodyContent := []

structure Response where
  description : Option String := none
  content : BodyContent := []

structure Operation where
  id : Option String := none
  summary : Option String := none
  description : Option String := none
  tags : List String := []
  parameters : List (Referable Parameter) := []
  requestBody : Option (Referable RequestBody) := none
  responses : Entries (Referable Response) := []

/-- The methods that a path may have operations for, in the order in which they are handled. -/
inductive PathMethod where
  | get
  | put
  | post
  | delete
  | options
  | head
  | patch
  | trace
  deriving DecidableEq, Repr

def PathMethod.name : PathMethod → String
  | .get => "GET"
  | .put => "PUT"
  | .post => "POST"
  | .delete => "DELETE"
  | .options => "OPTIONS"
  | .head => "HEAD"
  | .patch => "PATCH"
  | .trace => "TRACE"

def PathMethod.all : List PathMethod :=
  [.get, .put, .post, .delete, .options, .head, .patch, .trace]

/-- The operations of one path, and the parameters that they share. -/
structure PathItem where
  parameters : List (Referable Parameter) := []
  operation? : PathMethod → Option Operation := fun _ => none

structure Info where
  title : String := ""
  version : String := ""
  description : Option String := none
  deriving DecidableEq, Repr

/-- The reusable definitions of a description. -/
structure Components where
  schemas : Entries SchemaSlot := []
  parameters : Entries (Referable Parameter) := []
  requestBodies : Entries (Referable RequestBody) := []
  responses : Entries (Referable Response) := []

structure Document where
  openapi : String := ""
  info : Info := {}
  paths : Entries PathItem := []
  components : Components := {}

/-- An operation with the place of its declaration. -/
structure OperationEntry where
  path : String
  method : PathMethod
  pathItem : PathItem
  operation : Operation

def PathItem.operations (item : PathItem) (path : String) : List OperationEntry :=
  PathMethod.all.filterMap fun method =>
    (item.operation? method).map fun operation => ⟨path, method, item, operation⟩

namespace Document

def schema? (document : Document) (name : String) : Option SchemaSlot :=
  Entries.value? document.components.schemas name

/-- All operations: paths as they are declared, and the methods of a path in their fixed order. -/
def operations (document : Document) : List OperationEntry :=
  document.paths.flatMap fun (path, item) => item.operations path

end Document

end ApiGraph
