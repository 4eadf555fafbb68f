import ApiGraph.Document
import ApiGraph.Source.Form

namespace ApiGraph

open Source (Data Key Form Presence Fault)

/-! Descriptions as they are read from data. Every record knows its members by name and passes over
the others, so that neither the order of members nor members under other names have a say in what is
read; the order of paths, components, properties and the like is kept. -/

/-! ## References

A slot is first tried as a reference, then as a definition of its own. A reference is always a map,
and never a list of its fields. -/

def referenceFields : List Data.Field := [⟨["$ref"], false⟩]

def reference? (data : Data) : Option String :=
  match data with
  | .map _ =>
      match data.record? referenceFields with
      | some [path] => Data.required Data.text? path
      | _ => none
  | _ => none

def Referable.ofData? {α : Type} (read : Data → Option α) (data : Data) : Option (Referable α) :=
  match reference? data with
  | some path => some (.reference path)
  | none => (read data).map .inline

/-! ## Schemas -/

def TypeName.ofKey : Key → Option TypeName
  | .name "string" => some .string
  | .name "integer" => some .integer
  | .name "number" => some .number
  | .name "boolean" => some .boolean
  | .name "array" => some .array
  | .name "object" => some .object
  | .name "null" => some .null
  | .name _ => some .unknown
  | .index 0 => some .string
  | .index 1 => some .integer
  | .index 2 => some .number
  | .index 3 => some .boolean
  | .index 4 => some .array
  | .index 5 => some .object
  | .index 6 => some .null
  | .index _ => some .unknown
  | .other => none

def TypeName.ofData? (data : Data) : Option TypeName := data.choice?.bind TypeName.ofKey

def TypeSet.ofData? (data : Data) : Option TypeSet :=
  match TypeName.ofData? data with
  | some name => some (.single name)
  | none => (data.list? TypeName.ofData?).map .anyOf

namespace Schema

def fields : List Data.Field := [
  ⟨["type"], false⟩,
  ⟨["format"], false⟩,
  ⟨["title"], false⟩,
  ⟨["description"], false⟩,
  ⟨["properties"], true⟩,
  ⟨["required"], true⟩,
  ⟨["items"], false⟩,
  ⟨["additionalProperties"], false⟩,
  ⟨["enum"], true⟩,
  ⟨["x-order", "x-coze-order"], false⟩,
  ⟨["x-enum-names", "x-coze-enum-names", "x-enum-varnames"], false⟩]

mutual

def slotOfData? (data : Data) : Option SchemaSlot :=
  match reference? data with
  | some path => some (.reference path)
  | none => (ofData? data).map .inline
termination_by (sizeOf data, 1)

def ofData? (data : Data) : Option Schema :=
  match _ : data.record? fields with
  | some [type, format, title, description, properties, required, items, additional, enum, order,
      names] => do
      let type ← Data.optional TypeSet.ofData? type
      let format ← Data.optional Data.text? format
      let title ← Data.optional Data.text? title
      let description ← Data.optional Data.text? description
      let properties ←
        match _ : properties with
        | none => some []
        | some members => slotsOfData? members
      let required ← Data.defaulted [] (Data.list? Data.text?) required
      let items ←
        match _ : items with
        | none => some none
        | some .null => some none
        | some item => (slotOfData? item).map some
      let additional ←
        match _ : additional with
        | none => some none
        | some .null => some none
        | some (.bool answer) => some (some (.allowed answer))
        | some value => (slotOfData? value).map fun slot => some (.schema slot)
      let enumValues ← Data.defaulted [] (Data.list? Data.toJson?) enum
      let propertyOrder ← Data.optional (Data.list? Data.text?) order
      let enumNames ← Data.optional (Data.list? Data.text?) names
      return {
        type := type
        format := format
        title := title
        description := description
        properties := properties
        required := required
        items := items
        additionalProperties := additional
        enumValues := enumValues
        propertyOrder := propertyOrder
        enumNames := enumNames }
  | _ => none
termination_by (sizeOf data, 0)
decreasing_by
  all_goals
    refine Prod.Lex.left _ _ (Data.sizeOf_lt_of_mem_record? ‹_› ?_)
    simp_all

def slotsOfData? (data : Data) : Option (Entries SchemaSlot) :=
  match data with
  | .map members => (slotsOfMembers? members).map (Entries.putAll [])
  | _ => none
termination_by (sizeOf data, 0)

def slotsOfMembers? (members : List (Key × Data)) : Option (Entries SchemaSlot) :=
  match members with
  | [] => some []
  | (.name name, value) :: rest =>
      match slotOfData? value, slotsOfMembers? rest with
      | some slot, some slots => some ((name, slot) :: slots)
      | _, _ => none
  | _ :: _ => none
termination_by (sizeOf members, 0)

end

end Schema

/-! ## Parameters and bodies -/

/-- A location goes by its name or by its number. -/
def ParameterLocation.ofKey : Key → Option ParameterLocation
  | .name text => all.find? fun location => location.name == text
  | .index position => all[position]?
  | .other => none

theorem ParameterLocation.ofKey_name_iff {text : String} {location : ParameterLocation} :
    ofKey (.name text) = some location ↔ text = location.name := by
  constructor
  · intro found
    rw [ofKey] at found
    have same := List.find?_some found
    exact (beq_iff_eq.mp same).symm
  · rintro rfl
    cases location <;> decide

def ParameterLocation.ofData? (data : Data) : Option ParameterLocation :=
  data.choice?.bind ParameterLocation.ofKey

def Parameter.fields : List Data.Field := [
  ⟨["name"], false⟩,
  ⟨["in"], false⟩,
  ⟨["description"], false⟩,
  ⟨["required"], true⟩,
  ⟨["schema"], false⟩]

def Parameter.ofData? (data : Data) : Option Parameter :=
  match data.record? fields with
  | some [name, location, description, required, schema] => do
      let name ← Data.required Data.text? name
      let location ← Data.required ParameterLocation.ofData? location
      let description ← Data.optional Data.text? description
      let required ← Data.defaulted false Data.bool? required
      let schema ← Data.optional Schema.slotOfData? schema
      return ⟨name, location, description, required, schema⟩
  | _ => none

def mediaTypeFields : List Data.Field := [⟨["schema"], false⟩]

/-- The schema that a media type has, if any. -/
def mediaSchema? (data : Data) : Option (Option SchemaSlot) :=
  match data.record? mediaTypeFields with
  | some [schema] => Data.optional Schema.slotOfData? schema
  | _ => none

def BodyContent.ofData? (data : Data) : Option BodyContent := data.entries? mediaSchema?

def RequestBody.fields : List Data.Field := [
  ⟨["description"], false⟩,
  ⟨["required"], true⟩,
  ⟨["content"], true⟩]

def RequestBody.ofData? (data : Data) : Option RequestBody :=
  match data.record? fields with
  | some [description, required, content] => do
      let description ← Data.optional Data.text? description
      let required ← Data.defaulted false Data.bool? required
      let content ← Data.defaulted [] BodyContent.ofData? content
      return ⟨description, required, content⟩
  | _ => none

def Response.fields : List Data.Field := [
  ⟨["description"], false⟩,
  ⟨["content"], true⟩]

def Response.ofData? (data : Data) : Option Response :=
  match data.record? fields with
  | some [description, content] => do
      let description ← Data.optional Data.text? description
      let content ← Data.defaulted [] BodyContent.ofData? content
      return ⟨description, content⟩
  | _ => none

abbrev parameterSlot? : Data → Option (Referable Parameter) := Referable.ofData? Parameter.ofData?

abbrev requestBodySlot? : Data → Option (Referable RequestBody) :=
  Referable.ofData? RequestBody.ofData?

abbrev responseSlot? : Data → Option (Referable Response) := Referable.ofData? Response.ofData?

/-! ## Operations and paths -/

def Operation.fields : List Data.Field := [
  ⟨["operationId"], false⟩,
  ⟨["summary"], false⟩,
  ⟨["description"], false⟩,
  ⟨["tags"], true⟩,
  ⟨["parameters"], true⟩,
  ⟨["requestBody"], false⟩,
  ⟨["responses"], true⟩]

def Operation.ofData? (data : Data) : Option Operation :=
  match data.record? fields with
  | some [id, summary, description, tags, parameters, requestBody, responses] => do
      let id ← Data.optional Data.text? id
      let summary ← Data.optional Data.text? summary
      let description ← Data.optional Data.text? description
      let tags ← Data.defaulted [] (Data.list? Data.text?) tags
      let parameters ← Data.defaulted [] (Data.list? parameterSlot?) parameters
      let requestBody ← Data.optional requestBodySlot? requestBody
      let responses ← Data.defaulted [] (Data.entries? responseSlot?) responses
      return ⟨id, summary, description, tags, parameters, requestBody, responses⟩
  | _ => none

def PathItem.fields : List Data.Field := [
  ⟨["parameters"], true⟩,
  ⟨["get"], false⟩,
  ⟨["put"], false⟩,
  ⟨["post"], false⟩,
  ⟨["delete"], false⟩,
  ⟨["options"], false⟩,
  ⟨["head"], false⟩,
  ⟨["patch"], false⟩,
  ⟨["trace"], false⟩]

def PathItem.ofData? (data : Data) : Option PathItem :=
  match data.record? fields with
  | some [parameters, get, put, post, delete, options, head, patch, trace] => do
      let parameters ← Data.defaulted [] (Data.list? parameterSlot?) parameters
      let get ← Data.optional Operation.ofData? get
      let put ← Data.optional Operation.ofData? put
      let post ← Data.optional Operation.ofData? post
      let delete ← Data.optional Operation.ofData? delete
      let options ← Data.optional Operation.ofData? options
      let head ← Data.optional Operation.ofData? head
      let patch ← Data.optional Operation.ofData? patch
      let trace ← Data.optional Operation.ofData? trace
      return {
        parameters := parameters
        operation?
          | .get => get
          | .put => put
          | .post => post
          | .delete => delete
          | .options => options
          | .head => head
          | .patch => patch
          | .trace => trace }
  | _ => none

/-! ## Documents -/

def Info.fields : List Data.Field := [
  ⟨["title"], true⟩,
  ⟨["version"], true⟩,
  ⟨["description"], false⟩]

def Info.ofData? (data : Data) : Option Info :=
  match data.record? fields with
  | some [title, version, description] => do
      let title ← Data.defaulted "" Data.text? title
      let version ← Data.defaulted "" Data.text? version
      let description ← Data.optional Data.text? description
      return ⟨title, version, description⟩
  | _ => none

def Components.fields : List Data.Field := [
  ⟨["schemas"], true⟩,
  ⟨["parameters"], true⟩,
  ⟨["requestBodies"], true⟩,
  ⟨["responses"], true⟩]

def Components.ofData? (data : Data) : Option Components :=
  match data.record? fields with
  | some [schemas, parameters, requestBodies, responses] => do
      let schemas ← Data.defaulted [] Schema.slotsOfData? schemas
      let parameters ← Data.defaulted [] (Data.entries? parameterSlot?) parameters
      let requestBodies ← Data.defaulted [] (Data.entries? requestBodySlot?) requestBodies
      let responses ← Data.defaulted [] (Data.entries? responseSlot?) responses
      return ⟨schemas, parameters, requestBodies, responses⟩
  | _ => none

namespace Document

def fields : List Data.Field := [
  ⟨["openapi"], true⟩,
  ⟨["info"], true⟩,
  ⟨["paths"], true⟩,
  ⟨["components"], true⟩]

def ofData? (data : Data) : Option Document :=
  match data.record? fields with
  | some [openapi, info, paths, components] => do
      let openapi ← Data.defaulted "" Data.text? openapi
      let info ← Data.defaulted {} Info.ofData? info
      let paths ← Data.defaulted [] (Data.entries? PathItem.ofData?) paths
      let components ← Data.defaulted {} Components.ofData? components
      return ⟨openapi, info, paths, components⟩
  | _ => none

def ofJson? (value : Json) : Option Document := ofData? (.ofJson value)

/-! ## Documents in text

The form of a document names the places that are read one by one; below them a definition is taken
in as a whole before it is judged. -/

def slotForm {α : Type} (read : Data → Option α) : Form := .content fun data => (read data).isSome

def operationForm : Form := .record [
  ("operationId", .optional, .text),
  ("summary", .optional, .text),
  ("description", .optional, .text),
  ("tags", .defaulted, .list .text),
  ("parameters", .defaulted, .list (slotForm parameterSlot?)),
  ("requestBody", .optional, slotForm requestBodySlot?),
  ("responses", .defaulted, .map (slotForm responseSlot?))]

def pathItemForm : Form := .record [
  ("parameters", .defaulted, .list (slotForm parameterSlot?)),
  ("get", .optional, operationForm),
  ("put", .optional, operationForm),
  ("post", .optional, operationForm),
  ("delete", .optional, operationForm),
  ("options", .optional, operationForm),
  ("head", .optional, operationForm),
  ("patch", .optional, operationForm),
  ("trace", .optional, operationForm)]

def infoForm : Form := .record [
  ("title", .defaulted, .text),
  ("version", .defaulted, .text),
  ("description", .optional, .text)]

def componentsForm : Form := .record [
  ("schemas", .defaulted, .map (slotForm Schema.slotOfData?)),
  ("parameters", .defaulted, .map (slotForm parameterSlot?)),
  ("requestBodies", .defaulted, .map (slotForm requestBodySlot?)),
  ("responses", .defaulted, .map (slotForm responseSlot?))]

def form : Form := .record [
  ("openapi", .defaulted, .text),
  ("info", .defaulted, infoForm),
  ("paths", .defaulted, .map pathItemForm),
  ("components", .defaulted, componentsForm)]

def ofSource (source : Source.Text) : Except Fault Document :=
  match source.read form with
  | .error fault => .error fault
  | .ok data =>
      match ofData? data with
      | some document => .ok document
      | none => .error .wrongShape

end Document

end ApiGraph
