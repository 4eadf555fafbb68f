import ApiGraph.Conversion.Schema
import ApiGraph.Handler
import ApiGraph.Text.LetterCase

namespace ApiGraph

/-! The conversion of operations into handlers. -/

/-- A conversion that goes on from state to state until something fails. What else may become of a
step is up to `m`. -/
abbrev ConvertingIn (m : Type → Type) := ExceptT BuildError (StateT Progress m)

abbrev Converting := ConvertingIn Id

def ConvertingIn.lift {m : Type → Type} [Monad m] {α : Type} (result : Except BuildError α) :
    ConvertingIn m α :=
  ExceptT.mk (pure result)

def Converting.ofStep {document : Document} {α : Type}
    (step : (progress : Progress) → Conversion document progress α) : Converting α :=
  ExceptT.mk fun progress => ((step progress).value, (step progress).state)

/-! ## Reusable definitions -/

/-- The definition that is reached within so many steps in one section of the components. -/
def resolveWithin {α : Type} (area : String) (components : Entries (Referable α))
    (handler : String) : Nat → Referable α → Except BuildError α
  | 0, item => .error (.unresolvedReference (item.path?.getD "") handler)
  | _ + 1, .inline value => .ok value
  | steps + 1, .reference path =>
      match (Pointer.component? path area).bind (Entries.value? components) with
      | some next => resolveWithin area components handler steps next
      | none => .error (.unresolvedReference path handler)

/-- The definition that an item is or leads to. A chain of references that is longer than the list
of components never ends. -/
def resolveComponent {α : Type} (area : String) (components : Entries (Referable α))
    (handler : String) (item : Referable α) : Except BuildError α :=
  resolveWithin area components handler (components.length + 1) item

def parameterArea : String := "parameters"

def requestBodyArea : String := "requestBodies"

def responseArea : String := "responses"

/-! ## Parameters -/

/-- Replace the first parameter of the same name and location, or else add one at the end. -/
def overrideParameter (parameters : List Parameter) (parameter : Parameter) : List Parameter :=
  match parameters with
  | [] => [parameter]
  | other :: rest =>
      if other.name = parameter.name ∧ other.location = parameter.location then parameter :: rest
      else other :: overrideParameter rest parameter

/-- The parameters of an operation: those of its path, overridden by its own. -/
def collectParameters (document : Document) (entry : OperationEntry) (handler : String) :
    Except BuildError (List Parameter) := do
  let resolve := resolveComponent parameterArea document.components.parameters handler
  let shared ← entry.pathItem.parameters.mapM resolve
  let own ← entry.operation.parameters.mapM resolve
  return own.foldl overrideParameter shared

/-- The fields that stand at one location, in their order. -/
def fieldsAt (location : ParameterLocation)
    (fields : List (ParameterLocation × TypeField TypeId)) : List (TypeField TypeId) :=
  (fields.filter fun (place, _) => place == location).map Prod.snd

/-! ## Bodies -/

/-- The first media type with a schema. -/
def firstSchema? (content : BodyContent) : Option (String × SchemaSlot) :=
  content.findSome? fun (mediaType, slot) => slot.map fun slot => (mediaType, slot)

def requestSchema? (document : Document) (operation : Operation) (handler : String) :
    Except BuildError (Option (String × SchemaSlot)) :=
  match operation.requestBody with
  | none => .ok none
  | some body => do
      let body ←
        resolveComponent requestBodyArea document.components.requestBodies handler body
      return firstSchema? body.content

def successStatus : String := "200"

def isSuccess (status : String) : Bool := status.toList.head? == some '2'

/-- The response to a successful request: that of the usual status, or else the first one of any
success. -/
def successResponse? (operation : Operation) : Option (Referable Response) :=
  match Entries.value? operation.responses successStatus with
  | some response => some response
  | none => (operation.responses.find? fun (status, _) => isSuccess status).map Prod.snd

def responseSchema? (document : Document) (operation : Operation) (handler : String) :
    Except BuildError (Option SchemaSlot) :=
  match successResponse? operation with
  | none => .ok none
  | some response => do
      let response ← resolveComponent responseArea document.components.responses handler response
      return (firstSchema? response.content).map Prod.snd

/-! ## Names

The name of an operation without one is made of the method and the segments of the path in snake
case. -/

/-- How a parameter of a path shows in a name. -/
def parameterWord : List Char := "by_id".toList

def isParameterSegment (segment : List Char) : Bool :=
  segment.head? == some '\x7b' && segment.getLast? == some '\x7d'

def segmentWord (segment : List Char) : List Char :=
  if isParameterSegment segment then parameterWord else Text.snakeCase segment

def operationName (method path : String) : String :=
  let segments := (Text.pieces '/' path.toList).filter (!·.isEmpty)
  let words := Text.toLowercase method.toList :: segments.map segmentWord
  "_".intercalate (words.map String.ofList)

example : operationName "GET" "/pet-store/\x7bid\x7d" = "get_pet_store_by_id" := by decide +kernel
example : operationName "DELETE" "/" = "delete" := by decide +kernel

/-! ## Operations -/

def OperationEntry.handlerName (entry : OperationEntry) : String :=
  match entry.operation.id.filter (· != "") with
  | some id => id
  | none => operationName entry.method.name entry.path

/-- The module of an operation: its first tag, or else the fallback. -/
def OperationEntry.moduleName (entry : OperationEntry) (fallback : String) : String :=
  entry.operation.tags.head?.getD fallback

/-- How schemas are converted: those of all components, and one in a slot at some location. -/
structure SchemaConversion (m : Type → Type) where
  components : ConvertingIn m Unit
  slot (slot : SchemaSlot) (location : String) : ConvertingIn m (TypeRef TypeId)

namespace SchemaConversion

variable {m : Type → Type} [Monad m] (schemas : SchemaConversion m)

def parameterType (parameter : Parameter) (location : String) :
    ConvertingIn m (TypeRef TypeId) :=
  match parameter.schema with
  | some slot => schemas.slot slot location
  | none => do
      modify fun progress => progress.warn (.unsupportedSchema location)
      return .inline .unknown

def parameter (handler : String) (parameter : Parameter) :
    ConvertingIn m (ParameterLocation × TypeField TypeId) := do
  let location := handler ++ ".param(" ++ parameter.name ++ ")"
  let type ← schemas.parameterType parameter location
  return (parameter.location, ⟨parameter.name, parameter.description, type, parameter.required⟩)

def body (location : String) : Option SchemaSlot → ConvertingIn m (Option (TypeRef TypeId))
  | none => return none
  | some slot => do
      let type ← schemas.slot slot location
      return some type

def operation (document : Document) (entry : OperationEntry) : ConvertingIn m Handler := do
  let operation := entry.operation
  let name := entry.handlerName
  let parameters ← ConvertingIn.lift (collectParameters document entry name)
  let fields ← (parameters.filter (·.location != .cookie)).mapM (schemas.parameter name)
  let request ← ConvertingIn.lift (requestSchema? document operation name)
  let requestBody ← schemas.body (name ++ ".request") (request.map Prod.snd)
  let response ← ConvertingIn.lift (responseSchema? document operation name)
  let responseBody ← schemas.body (name ++ ".response") response
  modify Progress.countHandler
  return {
    name := name
    description := operation.summary <|> operation.description
    path := entry.path
    method := entry.method.name
    contentType := (request.map fun (mediaType, _) => .ofMediaType mediaType).getD .json
    headerParams := fieldsAt .header fields
    pathParams := fieldsAt .path fields
    queryParams := fieldsAt .query fields
    requestBody := requestBody
    responseBody := responseBody }

end SchemaConversion

def Document.schemaConversion (document : Document) : SchemaConversion Id where
  components := Converting.ofStep (convertComponents document)
  slot slot location :=
    Converting.ofStep fun progress => convertSchema document progress slot location

def convertOperation (document : Document) (entry : OperationEntry) : Converting Handler :=
  document.schemaConversion.operation document entry

end ApiGraph
