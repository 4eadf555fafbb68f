import ApiGraph.Proofs.SchemaReader
import Mathlib

namespace ApiGraph

/-! # Places of a document

What a document is read from is a tree of records, lists and maps. Each place in it is read in a way
of its own, and the reading of a record says for every field what the place of its value is. -/

open Source (Data Key)

/-- The records that a document consists of. -/
inductive RecordKind where
  | document
  | info
  | components
  | pathItem
  | operation
  | parameter
  | requestBody
  | response
  | mediaType
  | schema
  deriving DecidableEq

inductive Place where
  /-- Data that is taken as a whole. -/
  | plain
  | list (item : Place)
  /-- Entries under names that anyone may choose. -/
  | map (value : Place)
  | record (kind : RecordKind)
  /-- A record, or a reference in its stead. -/
  | slot (kind : RecordKind)
  deriving DecidableEq

namespace RecordKind

/-- What a record is read as. -/
def Model : RecordKind → Type
  | .document => Document
  | .info => Info
  | .components => Components
  | .pathItem => PathItem
  | .operation => Operation
  | .parameter => Parameter
  | .requestBody => RequestBody
  | .response => Response
  | .mediaType => Option SchemaSlot
  | .schema => Schema

def read : (kind : RecordKind) → Data → Option kind.Model
  | .document => Document.ofData?
  | .info => Info.ofData?
  | .components => Components.ofData?
  | .pathItem => PathItem.ofData?
  | .operation => Operation.ofData?
  | .parameter => Parameter.ofData?
  | .requestBody => RequestBody.ofData?
  | .response => Response.ofData?
  | .mediaType => mediaSchema?
  | .schema => Schema.ofData?

def fields : RecordKind → List Data.Field
  | .document => Document.fields
  | .info => Info.fields
  | .components => Components.fields
  | .pathItem => PathItem.fields
  | .operation => Operation.fields
  | .parameter => Parameter.fields
  | .requestBody => RequestBody.fields
  | .response => Response.fields
  | .mediaType => mediaTypeFields
  | .schema => Schema.fields

/-- The places of the values of all fields. -/
def places : RecordKind → List Place
  | .document => [.plain, .record .info, .map (.record .pathItem), .record .components]
  | .info => [.plain, .plain, .plain]
  | .components => [.map (.slot .schema), .map (.slot .parameter), .map (.slot .requestBody),
      .map (.slot .response)]
  | .pathItem => [.list (.slot .parameter), .record .operation, .record .operation,
      .record .operation, .record .operation, .record .operation, .record .operation,
      .record .operation, .record .operation]
  | .operation => [.plain, .plain, .plain, .plain, .list (.slot .parameter), .slot .requestBody,
      .map (.slot .response)]
  | .parameter => [.plain, .plain, .plain, .plain, .slot .schema]
  | .requestBody => [.plain, .plain, .map (.record .mediaType)]
  | .response => [.plain, .map (.record .mediaType)]
  | .mediaType => [.slot .schema]
  | .schema => [.plain, .plain, .plain, .plain, .map (.slot .schema), .plain, .slot .schema,
      .slot .schema, .plain, .plain, .plain]

/-- All fields, each with the place of its value. -/
def layout (kind : RecordKind) : List (Data.Field × Place) := kind.fields.zip kind.places

/-- The place of what stands under a name, if any field goes by it. -/
def member? (kind : RecordKind) (name : String) : Option Place :=
  (kind.layout.find? (·.1.names.contains name)).map Prod.snd

theorem length_places (kind : RecordKind) : kind.fields.length = kind.places.length := by
  cases kind <;> rfl

/-- No name stands for two fields. -/
theorem nodup_names (kind : RecordKind) : (kind.layout.flatMap (·.1.names)).Nodup := by
  cases kind <;> decide

theorem eq_of_mem_layout {kind : RecordKind} {name : String} {inner : Place}
    (found : kind.member? name = some inner) {entry : Data.Field × Place}
    (member : entry ∈ kind.layout) (known : name ∈ entry.1.names) : entry.2 = inner := by
  rcases Option.map_eq_some_iff.mp found with ⟨first, here, rfl⟩
  have contained := List.find?_some here
  have apart := (List.nodup_flatMap.mp kind.nodup_names).2
  have symmetric : Std.Symm (Function.onFun List.Disjoint fun entry : Data.Field × Place =>
      entry.1.names) := ⟨fun _ _ disjoint => disjoint.symm⟩
  by_contra different
  apply apart.forall member (List.mem_of_find?_eq_some here) _ known
    (List.contains_iff_mem.mp contained)
  intro equal
  exact different (congrArg Prod.snd equal)

/-- No field could be taken for a reference. -/
theorem member?_reference (kind : RecordKind) : kind.member? "$ref" = none := by
  cases kind <;> decide

/-- Every field that goes by a name has its value at the place of that name. -/
theorem forall₂_places {kind : RecordKind} {name : String} {inner : Place}
    (found : kind.member? name = some inner) :
    List.Forall₂ (fun field place => name ∈ field.names → place = inner) kind.fields
      kind.places :=
  List.forall₂_iff_zip.mpr ⟨kind.length_places, fun member known =>
    eq_of_mem_layout found member known⟩

end RecordKind

namespace Place

def Model : Place → Type
  | .plain => Data
  | .list item => List item.Model
  | .map value => Entries value.Model
  | .record kind => kind.Model
  | .slot kind => Referable kind.Model

def read : (place : Place) → Data → Option place.Model
  | .plain => some
  | .list item => Data.list? item.read
  | .map value => Data.entries? value.read
  | .record kind => kind.read
  | .slot kind => Referable.ofData? kind.read

/-- Values that the field at a place takes for the same. -/
def Alike : Place → Option Data → Option Data → Prop
  | .plain => Eq
  | place => Data.Alike place.read

theorem Alike.same (place : Place) (value : Option Data) : place.Alike value value := by
  cases place with
  | plain => exact Eq.refl value
  | _ => exact Data.Alike.same value

theorem Alike.of_read_eq {place : Place} {value other : Data}
    (here : value.isComposite = true) (there : other.isComposite = true)
    (equal : place.read value = place.read other) : place.Alike (some value) (some other) := by
  cases place with
  | plain => exact equal
  | _ => exact Data.Alike.composite here there equal

end Place

/-! ## Records whose fields are alike

A reader sees of its record nothing but what the readers of the fields see of their values. Plain
fields have to be equal. Of the others it is enough that their own readers take them for the same. -/

section Readers

variable {data other : Data}

theorem Schema.ofData?_eq_of_agree
    (agree : Data.FieldsAgree
      [Eq, Eq, Eq, Eq, Data.Alike (Data.entries? (Referable.ofData? ofData?)), Eq,
        Data.Alike (Referable.ofData? ofData?), Data.Alike (Referable.ofData? ofData?), Eq, Eq, Eq]
      (data.record? fields) (other.record? fields)) :
    ofData? data = ofData? other := by
  -- Slots of schemas are read by a function that is defined together with this one.
  rw [← slotOfData?_eq] at agree
  rw [ofData?_eq, ofData?_eq]
  rcases agree.exists_or_none with ⟨values, others, here, there, aligned⟩ | ⟨here, there⟩
  · rcases aligned with _ | ⟨rfl, _ | ⟨rfl, _ | ⟨rfl, _ | ⟨rfl, _ | ⟨properties, _ |
      ⟨rfl, _ | ⟨items, _ | ⟨additional, _ | ⟨rfl, _ | ⟨rfl, _ | ⟨rfl, _ | _⟩⟩⟩⟩⟩⟩⟩⟩⟩⟩⟩
    rw [here, there, Option.bind_some, Option.bind_some, ofValues?, ofValues?]
    simp only [properties.defaulted_eq, items.optional_eq,
      (AdditionalProperties.alike additional).optional_eq]
  · rw [here, there]

theorem Parameter.ofData?_eq_of_agree
    (agree : Data.FieldsAgree [Eq, Eq, Eq, Eq, Data.Alike (Referable.ofData? Schema.ofData?)]
      (data.record? fields) (other.record? fields)) :
    ofData? data = ofData? other := by
  rw [← Schema.slotOfData?_eq] at agree
  rw [ofData?, ofData?]
  rcases agree.exists_or_none with ⟨values, others, here, there, aligned⟩ | ⟨here, there⟩
  · rcases aligned with _ | ⟨rfl, _ | ⟨rfl, _ | ⟨rfl, _ | ⟨rfl, _ | ⟨schema, _ | _⟩⟩⟩⟩⟩
    rw [here, there]
    simp only [schema.optional_eq]
  · rw [here, there]

theorem mediaSchema?_eq_of_agree
    (agree : Data.FieldsAgree [Data.Alike (Referable.ofData? Schema.ofData?)]
      (data.record? mediaTypeFields) (other.record? mediaTypeFields)) :
    mediaSchema? data = mediaSchema? other := by
  rw [← Schema.slotOfData?_eq] at agree
  rw [mediaSchema?, mediaSchema?]
  rcases agree.exists_or_none with ⟨values, others, here, there, aligned⟩ | ⟨here, there⟩
  · rcases aligned with _ | ⟨schema, _ | _⟩
    rw [here, there]
    simp only [schema.optional_eq]
  · rw [here, there]

theorem RequestBody.ofData?_eq_of_agree
    (agree : Data.FieldsAgree [Eq, Eq, Data.Alike BodyContent.ofData?] (data.record? fields)
      (other.record? fields)) :
    ofData? data = ofData? other := by
  rw [ofData?, ofData?]
  rcases agree.exists_or_none with ⟨values, others, here, there, aligned⟩ | ⟨here, there⟩
  · rcases aligned with _ | ⟨rfl, _ | ⟨rfl, _ | ⟨content, _ | _⟩⟩⟩
    rw [here, there]
    simp only [content.defaulted_eq]
  · rw [here, there]

theorem Response.ofData?_eq_of_agree
    (agree : Data.FieldsAgree [Eq, Data.Alike BodyContent.ofData?] (data.record? fields)
      (other.record? fields)) :
    ofData? data = ofData? other := by
  rw [ofData?, ofData?]
  rcases agree.exists_or_none with ⟨values, others, here, there, aligned⟩ | ⟨here, there⟩
  · rcases aligned with _ | ⟨rfl, _ | ⟨content, _ | _⟩⟩
    rw [here, there]
    simp only [content.defaulted_eq]
  · rw [here, there]

theorem Operation.ofData?_eq_of_agree
    (agree : Data.FieldsAgree
      [Eq, Eq, Eq, Eq, Data.Alike (Data.list? parameterSlot?), Data.Alike requestBodySlot?,
        Data.Alike (Data.entries? responseSlot?)]
      (data.record? fields) (other.record? fields)) :
    ofData? data = ofData? other := by
  rw [ofData?, ofData?]
  rcases agree.exists_or_none with ⟨values, others, here, there, aligned⟩ | ⟨here, there⟩
  · rcases aligned with _ | ⟨rfl, _ | ⟨rfl, _ | ⟨rfl, _ | ⟨rfl, _ | ⟨parameters, _ |
      ⟨requestBody, _ | ⟨responses, _ | _⟩⟩⟩⟩⟩⟩⟩
    rw [here, there]
    simp only [parameters.defaulted_eq, requestBody.optional_eq, responses.defaulted_eq]
  · rw [here, there]

theorem PathItem.ofData?_eq_of_agree
    (agree : Data.FieldsAgree
      [Data.Alike (Data.list? parameterSlot?), Data.Alike Operation.ofData?,
        Data.Alike Operation.ofData?, Data.Alike Operation.ofData?, Data.Alike Operation.ofData?,
        Data.Alike Operation.ofData?, Data.Alike Operation.ofData?, Data.Alike Operation.ofData?,
        Data.Alike Operation.ofData?]
      (data.record? fields) (other.record? fields)) :
    ofData? data = ofData? other := by
  rw [ofData?, ofData?]
  rcases agree.exists_or_none with ⟨values, others, here, there, aligned⟩ | ⟨here, there⟩
  · rcases aligned with _ | ⟨parameters, _ | ⟨get, _ | ⟨put, _ | ⟨post, _ | ⟨delete, _ |
      ⟨options, _ | ⟨head, _ | ⟨patch, _ | ⟨trace, _ | _⟩⟩⟩⟩⟩⟩⟩⟩⟩
    rw [here, there]
    simp only [parameters.defaulted_eq, get.optional_eq, put.optional_eq, post.optional_eq,
      delete.optional_eq, options.optional_eq, head.optional_eq, patch.optional_eq,
      trace.optional_eq]
  · rw [here, there]

theorem Info.ofData?_eq_of_agree
    (agree : Data.FieldsAgree [Eq, Eq, Eq] (data.record? fields) (other.record? fields)) :
    ofData? data = ofData? other := by
  rw [ofData?, ofData?]
  rcases agree.exists_or_none with ⟨values, others, here, there, aligned⟩ | ⟨here, there⟩
  · rcases aligned with _ | ⟨rfl, _ | ⟨rfl, _ | ⟨rfl, _ | _⟩⟩⟩
    rw [here, there]
  · rw [here, there]

theorem Components.ofData?_eq_of_agree
    (agree : Data.FieldsAgree
      [Data.Alike (Data.entries? (Referable.ofData? Schema.ofData?)),
        Data.Alike (Data.entries? parameterSlot?), Data.Alike (Data.entries? requestBodySlot?),
        Data.Alike (Data.entries? responseSlot?)]
      (data.record? fields) (other.record? fields)) :
    ofData? data = ofData? other := by
  rw [← Schema.slotOfData?_eq] at agree
  rw [ofData?, ofData?, Schema.slotsOfData?_eq]
  rcases agree.exists_or_none with ⟨values, others, here, there, aligned⟩ | ⟨here, there⟩
  · rcases aligned with _ | ⟨schemas, _ | ⟨parameters, _ | ⟨requestBodies, _ |
      ⟨responses, _ | _⟩⟩⟩⟩
    rw [here, there]
    simp only [schemas.defaulted_eq, parameters.defaulted_eq, requestBodies.defaulted_eq,
      responses.defaulted_eq]
  · rw [here, there]

theorem Document.ofData?_eq_of_agree
    (agree : Data.FieldsAgree
      [Eq, Data.Alike Info.ofData?, Data.Alike (Data.entries? PathItem.ofData?),
        Data.Alike Components.ofData?]
      (data.record? fields) (other.record? fields)) :
    ofData? data = ofData? other := by
  rw [ofData?, ofData?]
  rcases agree.exists_or_none with ⟨values, others, here, there, aligned⟩ | ⟨here, there⟩
  · rcases aligned with _ | ⟨rfl, _ | ⟨info, _ | ⟨paths, _ | ⟨components, _ | _⟩⟩⟩⟩
    rw [here, there]
    simp only [info.defaulted_eq, paths.defaulted_eq, components.defaulted_eq]
  · rw [here, there]

end Readers

namespace RecordKind

variable {kind : RecordKind} {data other : Data}

theorem read_eq_of_agree
    (agree : Data.FieldsAgree (kind.places.map Place.Alike) (data.record? kind.fields)
      (other.record? kind.fields)) : kind.read data = kind.read other := by
  cases kind with
  | document => exact Document.ofData?_eq_of_agree agree
  | info => exact Info.ofData?_eq_of_agree agree
  | components => exact Components.ofData?_eq_of_agree agree
  | pathItem => exact PathItem.ofData?_eq_of_agree agree
  | operation => exact Operation.ofData?_eq_of_agree agree
  | parameter => exact Parameter.ofData?_eq_of_agree agree
  | requestBody => exact RequestBody.ofData?_eq_of_agree agree
  | response => exact Response.ofData?_eq_of_agree agree
  | mediaType => exact mediaSchema?_eq_of_agree agree
  | schema => exact Schema.ofData?_eq_of_agree agree

theorem eachReflexive_alike (kind : RecordKind) :
    Data.EachReflexive kind.fields (kind.places.map Place.Alike) := by
  rw [Data.EachReflexive, List.forall₂_map_right_iff]
  exact List.forall₂_iff_zip.mpr ⟨kind.length_places, fun _ => Place.Alike.same _⟩

theorem read_eq_of_record?_eq (same : data.record? kind.fields = other.record? kind.fields) :
    kind.read data = kind.read other := by
  apply read_eq_of_agree
  rw [same]
  exact Data.fieldsAgree_self kind.eachReflexive_alike other

/-- Under a name, a value may be replaced by one that is read the same at the place of the name. -/
theorem read_eq_of_member {front rest : List (Key × Data)} {name : String} {inner : Place}
    (found : kind.member? name = some inner) (alike : inner.Alike (some data) (some other)) :
    kind.read (.map (front ++ (.name name, data) :: rest)) =
      kind.read (.map (front ++ (.name name, other) :: rest)) := by
  apply read_eq_of_agree
  apply Data.fieldsAgree_replaced
  rw [List.forall₂_map_right_iff]
  refine (forall₂_places found).imp fun field place only => ⟨Place.Alike.same place, ?_⟩
  intro known
  rw [only known]
  exact alike

theorem read_eq_of_item {front rest : List Data} {inner : Place}
    (found : kind.places[front.length]? = some inner)
    (alike : inner.Alike (some data) (some other)) :
    kind.read (.list (front ++ data :: rest)) = kind.read (.list (front ++ other :: rest)) := by
  apply read_eq_of_agree
  apply Data.fieldsAgree_items kind.eachReflexive_alike
  intro relation here
  rw [List.getElem?_map, found] at here
  cases here
  exact alike

end RecordKind

/-! ## References -/

theorem reference?_ignored {front rest : List (Key × Data)} {name : String}
    (different : name ≠ "$ref") (value : Data) :
    reference? (.map (front ++ (.name name, value) :: rest)) =
      reference? (.map (front ++ rest)) := by
  have ignored : ∀ field ∈ referenceFields, name ∉ field.names := by
    simp [referenceFields, different]
  rw [reference?, reference?, Data.record?_ignored ignored]

theorem Referable.ofData?_congr {α : Type} {read : Data → Option α} {data other : Data}
    (reference : reference? data = reference? other) (value : read data = read other) :
    ofData? read data = ofData? read other := by
  rw [ofData?, ofData?, reference, value]

end ApiGraph
