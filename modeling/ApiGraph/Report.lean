import ApiGraph.Build
import ApiGraph.Json.Printer

namespace ApiGraph

/-! The report of a build: everything that a generator of client code needs, with named types
referred to by name. All lists are in a fixed order, so equal builds have equal reports. -/

structure PageReport where
  item : TypeRef String
  indexName : String
  sizeName : String

structure HandlerReport where
  name : String
  method : String
  path : String
  description : Option String
  contentType : ContentType
  headerParams : List (TypeField String)
  pathParams : List (TypeField String)
  queryParams : List (TypeField String)
  requestBody : Option (TypeRef String)
  responseBody : Option (TypeRef String)
  page : Option PageReport

structure ModuleReport where
  name : String
  handlers : List HandlerReport
  types : List String

structure TypeReport where
  name : String
  description : Option String
  module : Option String
  shape : Shape String

structure Report where
  title : String
  version : String
  modules : List ModuleReport
  /-- The named types, in dependency order. -/
  types : List TypeReport
  aliases : NameMap String
  unassigned : List String
  statistics : Statistics

/-! ## Reporting -/

namespace Build

variable (result : Build)

def reportPage (page : Handler.PageInfo) : PageReport where
  item := page.item.rename result.registry.nameOf
  indexName := page.indexName
  sizeName := page.sizeName

def reportHandler (handler : Handler) : HandlerReport where
  name := handler.name
  method := handler.method
  path := handler.path
  description := handler.description
  contentType := handler.contentType
  headerParams := renameFields result.registry.nameOf handler.headerParams
  pathParams := renameFields result.registry.nameOf handler.pathParams
  queryParams := renameFields result.registry.nameOf handler.queryParams
  requestBody := handler.requestBody.map (·.rename result.registry.nameOf)
  responseBody := handler.responseBody.map (·.rename result.registry.nameOf)
  page := (result.pageInfo? handler).map result.reportPage

def reportModule (name : String) (module : Module) : ModuleReport where
  name := name
  handlers := module.handlers.map result.reportHandler
  types := module.types.map result.registry.nameOf

def reportType (node : TypeNode) : TypeReport where
  name := node.name
  description := node.description
  module := node.module
  shape := node.shape.rename result.registry.nameOf

/-- The types that have no module, in the order of names. -/
def unassigned : List String :=
  ((result.registry.nodes.filter fun node => node.module.isNone).map TypeNode.name).mergeSort
    fun left right => decide (left ≤ right)

def report : Report where
  title := result.info.title
  version := result.info.version
  modules := result.modules.entries.map fun (_, module) => result.reportModule module.name module
  types := result.order.order.filterMap fun id => (result.registry.node? id).map result.reportType
  aliases :=
    .ofEntries (result.registry.aliases.map fun (name, id) => (name, result.registry.nameOf id))
  unassigned := result.unassigned
  statistics := result.statistics

end Build

/-! ## JSON form

A named type is written as a reference and an inline type as its shape. Values that are missing are
left out, and so are the entries of a type that is not an enumeration. -/

def EnumEntry.toJson (entry : EnumEntry) : Json :=
  .object (Json.optionalMember "name" .string entry.name ++ [("value", entry.value)])

def entryMembers (entries : List EnumEntry) : Entries Json :=
  if entries.isEmpty then [] else [("enum_entries", .array (entries.map EnumEntry.toJson))]

mutual

def TypeRef.toJson : TypeRef String → Json
  | .named name => .object [("$ref", .string name)]
  | .inline shape => .object shape.members

def Shape.members : Shape String → Entries Json
  | .primitive primitive entries =>
      [("kind", .string "primitive"), ("primitive", .string primitive.name)] ++
        entryMembers entries
  | .object fields => [("kind", .string "object"), ("fields", .array (fieldsToJson fields))]
  | .array element => [("kind", .string "array"), ("element", element.toJson)]
  | .map value => [("kind", .string "map"), ("value", value.toJson)]

def fieldsToJson : List (Field (TypeRef String)) → List Json
  | [] => []
  | ⟨name, description, type, required⟩ :: rest =>
      .object ([("name", .string name)] ++ Json.optionalMember "description" .string description ++
        [("type", type.toJson), ("required", .bool required)]) :: fieldsToJson rest

end

def PageReport.toJson (page : PageReport) : Json :=
  .object [
    ("item_type", page.item.toJson),
    ("page_index_name", .string page.indexName),
    ("page_size_name", .string page.sizeName)]

def HandlerReport.toJson (handler : HandlerReport) : Json :=
  .object (
    [("name", .string handler.name), ("method", .string handler.method),
      ("path", .string handler.path)] ++
    Json.optionalMember "description" .string handler.description ++
    [("content_type", .string handler.contentType.name),
      ("header_params", .array (fieldsToJson handler.headerParams)),
      ("path_params", .array (fieldsToJson handler.pathParams)),
      ("query_params", .array (fieldsToJson handler.queryParams))] ++
    Json.optionalMember "request_body" TypeRef.toJson handler.requestBody ++
    Json.optionalMember "response_body" TypeRef.toJson handler.responseBody ++
    Json.optionalMember "page_info" PageReport.toJson handler.page)

def ModuleReport.toJson (module : ModuleReport) : Json :=
  .object [
    ("name", .string module.name),
    ("handlers", .array (module.handlers.map HandlerReport.toJson)),
    ("types", .strings module.types)]

def TypeReport.toJson (type : TypeReport) : Json :=
  .object (
    [("name", .string type.name)] ++
    Json.optionalMember "description" .string type.description ++
    Json.optionalMember "module" .string type.module ++
    type.shape.members)

def Statistics.toJson (statistics : Statistics) : Json :=
  .object [
    ("named_types", .nat statistics.namedTypes),
    ("aliases", .nat statistics.aliases),
    ("anonymous_types", .nat statistics.anonymousTypes),
    ("handlers_converted", .nat statistics.handlersConverted),
    ("modules", .nat statistics.modules),
    ("explicit_assignments", .nat statistics.explicitAssignments),
    ("reachability_assignments", .nat statistics.reachabilityAssignments),
    ("unassigned_types", .nat statistics.unassignedTypes),
    ("cycles_detected", .nat statistics.cyclesDetected),
    ("cycle_details", .array (statistics.cycles.map Json.strings)),
    ("warnings", .strings (statistics.warnings.map Warning.message))]

def Report.toJson (report : Report) : Json :=
  .object [
    ("title", .string report.title),
    ("version", .string report.version),
    ("modules", .array (report.modules.map ModuleReport.toJson)),
    ("types", .array (report.types.map TypeReport.toJson)),
    ("aliases", .object (report.aliases.entries.map fun (name, type) => (name, .string type))),
    ("unassigned", .strings report.unassigned),
    ("stats", report.statistics.toJson)]

/-- A report as text, over several lines. -/
def Report.text (report : Report) : String := report.toJson.pretty

end ApiGraph
