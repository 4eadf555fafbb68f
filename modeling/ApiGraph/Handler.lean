import ApiGraph.Config
import ApiGraph.Registry
import ApiGraph.Text

namespace ApiGraph

/-! Handlers are the operations of an interface once their types are known. -/

/-- How a request body is sent. -/
inductive ContentType where
  | json
  | file
  deriving DecidableEq, Repr

def ContentType.name : ContentType → String
  | .json => "json"
  | .file => "file"

/-- The media type of forms with files. -/
def formMediaType : List Char := "multipart/form-data".toList

/-- Only a form is sent as a file. Parameters of the media type and the case of its letters do not
matter. -/
def ContentType.ofMediaType (mediaType : String) : ContentType :=
  let essence := Text.trim Text.isBlank (Text.firstPiece ';' mediaType.toList)
  bif essence.map Char.toLower == formMediaType then .file else .json

example : ContentType.ofMediaType " Multipart/Form-Data ; boundary=x" = .file := by decide +kernel

structure Handler where
  name : String
  description : Option String := none
  path : String
  method : String
  contentType : ContentType := .json
  headerParams : List (TypeField TypeId) := []
  pathParams : List (TypeField TypeId) := []
  queryParams : List (TypeField TypeId) := []
  requestBody : Option (TypeRef TypeId) := none
  responseBody : Option (TypeRef TypeId) := none

/-- The characters that the name of a method may consist of. -/
def isMethodChar (c : Char) : Bool :=
  c.isAlphanum || "!#$%&'*+-.^_\x60|~".toList.contains c

def isMethodName (name : String) : Bool := !name.isEmpty && name.toList.all isMethodChar

/-- The handlers of one module and the types that it owns, in dependency order. -/
structure Module where
  name : String
  handlers : List Handler := []
  types : List TypeId := []

def Module.handler? (module : Module) (name : String) : Option Handler :=
  module.handlers.find? fun handler => handler.name == name

abbrev ModuleMap := NameMap Module

namespace Handler

def params (handler : Handler) : List (TypeField TypeId) :=
  handler.headerParams ++ handler.pathParams ++ handler.queryParams

/-- Every place of a handler that holds a type: the bodies first, then the parameters. -/
def typeRefs (handler : Handler) : List (TypeRef TypeId) :=
  handler.requestBody.toList ++ handler.responseBody.toList ++ handler.params.map Field.type

/-- The named types that a handler refers to itself. -/
def roots (handler : Handler) : List TypeId :=
  Registry.sortIds (handler.typeRefs.flatMap TypeRef.targets)

end Handler

/-! ## Payloads -/

/-- The shape of the type that a reference means. -/
def Registry.shapeOf (registry : Registry) : TypeRef TypeId → Shape TypeId
  | .named id => (registry.node? id).elim .unknown TypeNode.shape
  | .inline shape => shape

/-- The field of a response that holds its payload. -/
def payloadField : String := "data"

namespace Handler

/-- The type of the payload in a response that wraps one. -/
def payload? (handler : Handler) (registry : Registry) : Option (TypeRef TypeId) := do
  let body ← handler.responseBody
  let field ← (registry.shapeOf body).field? payloadField
  return field.type

/-! ## Pages

A handler returns pages when it is a query with a page index and a page size among its parameters,
and its payload is an object with a list in it. -/

structure PageInfo where
  item : TypeRef TypeId
  indexName : String
  sizeName : String

def orDefaults (candidates defaults : List String) : List String :=
  if candidates.isEmpty then defaults else candidates

def pageInfo? (handler : Handler) (registry : Registry)
    (indexCandidates sizeCandidates : List String) : Option PageInfo := do
  if handler.method != "GET" then none
  let names := handler.queryParams.map Field.name
  let indexName ← (orDefaults indexCandidates defaultPageIndexCandidates).find? names.contains
  let sizeName ← (orDefaults sizeCandidates defaultPageSizeCandidates).find? fun candidate =>
    names.contains candidate && candidate != indexName
  let payload ← handler.payload? registry
  let item ← (registry.shapeOf payload).fields.findSome? fun field =>
    (registry.shapeOf field.type).element?
  return ⟨item, indexName, sizeName⟩

end Handler

end ApiGraph
