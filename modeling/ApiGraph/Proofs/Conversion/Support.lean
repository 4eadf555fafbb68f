import ApiGraph.Proofs.Conversion.Translation
import ApiGraph.Proofs.Related

namespace ApiGraph

/-! # What a walk of a definition meets

A walk follows the parts of a definition through inline definitions and stops at references. The
document supports a definition when every reference that the walk meets names a declared component
and every array that it meets has items. This is all that the translation of the definition asks
for besides the ends of the chains of references, and then every property becomes one field. -/

namespace Schema

/-- The definition is walked as an object: its type says so, or else it has properties. -/
def IsObject (schema : Schema) : Prop :=
  schema.additionalSchema? = none ∧
    (schema.mainType? = some .object ∨ schema.mainType? = none ∧ schema.properties ≠ [])

/-- The definition is walked as an array: its type says so, or else it has items and nothing that
comes first. -/
def IsArray (schema : Schema) : Prop :=
  schema.additionalSchema? = none ∧
    (schema.mainType? = some .array ∨
      schema.mainType? = none ∧ schema.properties = [] ∧ schema.items ≠ none)

/-- The definition has a property. Of several with one name a hint keeps the first. -/
def HasProperty (schema : Schema) (name : String) (slot : SchemaSlot) : Prop :=
  (name, slot) ∈ schema.properties ∧
    ∀ hint, schema.propertyOrder = some hint → name ∈ hint →
      Entries.value? schema.properties name = some slot

/-- What a definition is made of: what its additional properties have to be, where that is said, and
otherwise the properties of an object or the items of an array. -/
inductive Part (schema : Schema) : SchemaSlot → Prop where
  | value {slot : SchemaSlot} (found : schema.additionalProperties = some (.schema slot)) :
      schema.Part slot
  | property {name : String} {slot : SchemaSlot} (shape : schema.IsObject)
      (has : schema.HasProperty name slot) : schema.Part slot
  | items {slot : SchemaSlot} (shape : schema.IsArray) (found : schema.items = some slot) :
      schema.Part slot

/-! ## The order of properties

A hint moves properties and loses none of them. -/

theorem mem_hinted_iff {properties : Entries SchemaSlot} {seen hint : List String} {name : String}
    {slot : SchemaSlot} :
    (name, slot) ∈ hinted properties seen hint ↔
      Entries.value? properties name = some slot ∧ name ∈ hint ∧ name ∉ seen := by
  induction hint generalizing seen with
  | nil => simp [hinted]
  | cons first hint induction =>
      unfold hinted
      cases found : Entries.value? properties first with
      | none =>
          dsimp only
          rw [induction, List.mem_cons]
          grind
      | some other =>
          dsimp only
          split
          next known =>
            rw [induction, List.mem_cons]
            grind
          next =>
            rw [List.mem_cons, induction, List.mem_cons, List.mem_cons]
            grind

theorem mem_orderedProperties {schema : Schema} {name : String} {slot : SchemaSlot} :
    (name, slot) ∈ schema.orderedProperties ↔ schema.HasProperty name slot := by
  unfold orderedProperties HasProperty
  cases schema.propertyOrder with
  | none => simp
  | some hint =>
      rw [List.mem_append, mem_hinted_iff, unhinted, List.mem_filter]
      by_cases named : name ∈ hint
      · have declared := @Entries.mem_of_value?_eq_some _ schema.properties name slot
        simpa [named] using declared
      · simp [named]

theorem mem_orderedProperties_iff {schema : Schema} {entry : String × SchemaSlot}
    (distinct : (Entries.names schema.properties).Nodup) :
    entry ∈ schema.orderedProperties ↔ entry ∈ schema.properties := by
  rcases entry with ⟨name, slot⟩
  rw [mem_orderedProperties]
  exact ⟨And.left, fun member =>
    ⟨member, fun _ _ _ => Entries.value?_eq_some_of_mem distinct member⟩⟩

/-! ## Parts and outlines -/

variable {schema : Schema}

theorem outline_eq_map_iff {slot : SchemaSlot} :
    schema.outline = .map slot ↔ schema.additionalProperties = some (.schema slot) := by
  rw [← additionalSchema?_eq_some_iff]
  constructor
  · intro outline
    have describes := describes_outline schema
    rw [outline] at describes
    exact describes
  · intro found
    simp only [outline, found]

theorem outline_of_isObject (shape : schema.IsObject) :
    schema.outline = .object schema.orderedProperties := by
  rcases shape with ⟨unmapped, typed | ⟨untyped, properties⟩⟩
  · simp only [outline, unmapped, primaryType?_eq, typed]
  · simp [outline, unmapped, primaryType?_eq, untyped, impliedOutline, properties]

theorem outline_of_isArray (shape : schema.IsArray) : schema.outline = .array schema.items := by
  rcases shape with ⟨unmapped, typed | ⟨untyped, properties, items⟩⟩
  · simp only [outline, unmapped, primaryType?_eq, typed]
  · simp [outline, unmapped, primaryType?_eq, untyped, impliedOutline, properties,
      Option.isSome_iff_ne_none, items]

theorem properties_of_impliedOutline {properties : Entries SchemaSlot}
    (implied : schema.impliedOutline = .object properties) : schema.properties ≠ [] := by
  unfold impliedOutline at implied
  split at implied
  next properties => simpa using properties
  split at implied
  · cases implied
  split at implied
  · cases implied
  split at implied <;> cases implied

theorem items_of_impliedOutline {items : Option SchemaSlot}
    (implied : schema.impliedOutline = .array items) :
    schema.properties = [] ∧ schema.items ≠ none := by
  unfold impliedOutline at implied
  split at implied
  · cases implied
  next properties =>
    split at implied
    next items => exact ⟨by simpa using properties, Option.isSome_iff_ne_none.mp items⟩
    split at implied
    · cases implied
    split at implied <;> cases implied

theorem isObject_of_outline {properties : Entries SchemaSlot}
    (outlined : schema.outline = .object properties) : schema.IsObject := by
  rw [outline, primaryType?_eq] at outlined
  split at outlined
  · cases outlined
  next unmapped =>
    refine ⟨unmapped, ?_⟩
    split at outlined
    next typed => exact .inl typed
    · cases outlined
    · cases outlined
    · cases outlined
    next untyped => exact .inr ⟨untyped, properties_of_impliedOutline outlined⟩

theorem isArray_of_outline {items : Option SchemaSlot}
    (outlined : schema.outline = .array items) : schema.IsArray := by
  rw [outline, primaryType?_eq] at outlined
  split at outlined
  · cases outlined
  next unmapped =>
    refine ⟨unmapped, ?_⟩
    split at outlined
    · cases outlined
    next typed => exact .inl typed
    · cases outlined
    · cases outlined
    next untyped => exact .inr ⟨untyped, items_of_impliedOutline outlined⟩

end Schema

/-! ## Properties and their fields -/

/-- A field is what a property of a definition is translated to. -/
structure Document.BecomesField (document : Document) (schema : Schema)
    (property : String × SchemaSlot) (field : TypeField String) : Prop where
  name : field.name = property.1
  description : field.description = document.describe property.2
  type : document.translateSlot property.2 = some field.type
  required : field.required = decide (property.1 ∈ schema.required)

section Fields

variable {document : Document} {schema : Schema} {properties : Entries SchemaSlot}

theorem Document.BecomesField.eq {property : String × SchemaSlot} {field : TypeField String}
    (becomes : document.BecomesField schema property field) :
    field = ⟨property.1, document.describe property.2, field.type,
      decide (property.1 ∈ schema.required)⟩ := by
  rw [← becomes.description, ← becomes.required, ← becomes.name]

/-- A property becomes one field only. -/
theorem Document.rightUnique_becomesField (document : Document) (schema : Schema) :
    Relator.RightUnique (document.BecomesField schema) := by
  intro property field other becomes also
  have same := Option.some.inj (becomes.type.symm.trans also.type)
  rw [becomes.eq, also.eq, same]

theorem Document.translateFields_eq_some_iff
    {inside : ∀ entry ∈ properties, sizeOf entry.2 < sizeOf schema}
    {fields : List (TypeField String)} :
    document.translateFields schema properties inside = some fields ↔
      List.Forall₂ (document.BecomesField schema) properties fields := by
  induction properties generalizing fields with
  | nil =>
      rw [translateFields, List.forall₂_nil_left_iff, Option.some.injEq, eq_comm]
  | cons property rest induction =>
      rcases property with ⟨name, slot⟩
      rw [translateFields, List.forall₂_cons_left_iff]
      constructor
      · intro translated
        rcases Option.bind_eq_some_iff.mp translated with ⟨type, here, others⟩
        rcases Option.map_eq_some_iff.mp others with ⟨later, there, rfl⟩
        exact ⟨_, later, ⟨rfl, rfl, here, rfl⟩, induction.mp there, rfl⟩
      · intro becomes
        rcases becomes with ⟨field, later, here, there, rfl⟩
        rw [here.type, Option.bind_some, induction.mpr there, Option.map_some, here.eq]

/-- A definition that is walked as an object has one field for each property, in their order. -/
theorem Document.translate_eq_some_iff_of_isObject (isObject : schema.IsObject)
    {shape : Shape String} :
    document.translate schema = some shape ↔ ∃ fields, shape = .object fields ∧
      List.Forall₂ (document.BecomesField schema) schema.orderedProperties fields := by
  rw [translate_eq, Schema.outline_of_isObject isObject, translateOutline, translateObject,
    Option.map_eq_some_iff]
  simp only [translateFields_eq_some_iff, eq_comm (a := shape), and_comm]

/-- No other definition becomes an object. -/
theorem Document.isObject_iff_of_translate {shape : Shape String}
    (translated : document.translate schema = some shape) : shape.isObject ↔ schema.IsObject := by
  constructor
  · intro object
    rw [translate_eq] at translated
    cases outline : schema.outline with
    | object properties => exact Schema.isObject_of_outline outline
    | map value =>
        rw [outline, translateOutline] at translated
        rcases Option.map_eq_some_iff.mp translated with ⟨_, _, rfl⟩
        cases object
    | array items =>
        rw [outline, translateOutline, translateArray] at translated
        split at translated
        · rcases Option.map_eq_some_iff.mp translated with ⟨_, _, rfl⟩
          cases object
        · cases translated
    | _ =>
        rw [outline] at translated
        cases translated
        cases object
  · intro isObject
    rcases (translate_eq_some_iff_of_isObject isObject).mp translated with ⟨_, rfl, _⟩
    rfl

end Fields

/-! ## Walks -/

/-- A walk that starts at one slot comes to another one. -/
inductive Walked : SchemaSlot → SchemaSlot → Prop where
  | itself (slot : SchemaSlot) : Walked slot slot
  | inside {schema : Schema} {part slot : SchemaSlot} (member : schema.Part part)
      (rest : Walked part slot) : Walked (.inline schema) slot

/-- A reference names a component that is declared. -/
def Document.Declares (document : Document) (path : String) : Prop :=
  ∃ name, Pointer.schema? path = some name ∧ name ∈ Entries.names document.components.schemas

structure Document.Supports (document : Document) (root : SchemaSlot) : Prop where
  declared : ∀ path, Walked root (.reference path) → document.Declares path
  filled : ∀ schema, Walked root (.inline schema) → schema.IsArray → schema.items ≠ none

namespace Document

variable {document : Document} {schema : Schema} {slot : SchemaSlot}

theorem Supports.part (supports : document.Supports (.inline schema)) (member : schema.Part slot) :
    document.Supports slot where
  declared path walked := supports.declared path (.inside member walked)
  filled inner walked := supports.filled inner (.inside member walked)

/-! ## Translations -/

theorem exists_leadsTo_of_designated {path last : String}
    (designated : document.designated? path = some (last, schema)) :
    ∃ first, Pointer.schema? path = some first ∧ document.LeadsTo first last schema := by
  rcases Option.bind_eq_some_iff.mp designated with ⟨first, target, followed⟩
  exact ⟨first, target, Referable.follow_eq_some_iff.mp followed⟩

theorem declares_of_designated {path : String} {target : String × Schema}
    (designated : document.designated? path = some target) : document.Declares path := by
  rcases exists_leadsTo_of_designated designated with ⟨name, named, leads⟩
  refine ⟨name, named, ?_⟩
  cases leads with
  | here declared => exact Entries.mem_names_of_value?_eq_some declared
  | onward declared => exact Entries.mem_names_of_value?_eq_some declared

theorem exists_translateSlot_of_part {shape : Shape String}
    (translated : document.translate schema = some shape) (member : schema.Part slot) :
    ∃ type, document.translateSlot slot = some type := by
  cases member with
  | value found =>
      rw [translate_eq, Schema.outline_eq_map_iff.mpr found, translateOutline] at translated
      rcases Option.map_eq_some_iff.mp translated with ⟨type, here, _⟩
      exact ⟨type, here⟩
  | property isObject has =>
      rcases (translate_eq_some_iff_of_isObject isObject).mp translated with ⟨_, _, become⟩
      rcases exists_of_mem_left become (Schema.mem_orderedProperties.mpr has) with
        ⟨field, _, becomes⟩
      exact ⟨field.type, becomes.type⟩
  | items isArray found =>
      rw [translate_eq, Schema.outline_of_isArray isArray, translateOutline,
        document.translateArray_eq found] at translated
      rcases Option.map_eq_some_iff.mp translated with ⟨type, here, _⟩
      exact ⟨type, here⟩

theorem items_ne_none_of_translate {shape : Shape String}
    (translated : document.translate schema = some shape) (isArray : schema.IsArray) :
    schema.items ≠ none := by
  intro missing
  rw [document.translate_eq, Schema.outline_of_isArray isArray, translateOutline,
    document.translateArray_of_none missing] at translated
  cases translated

theorem exists_translateSlot_of_walked {root : SchemaSlot} {type : TypeRef String}
    (translated : document.translateSlot root = some type) (walked : Walked root slot) :
    ∃ type, document.translateSlot slot = some type := by
  induction walked generalizing type with
  | itself => exact ⟨type, translated⟩
  | inside member _ induction =>
      rw [translateSlot] at translated
      rcases Option.map_eq_some_iff.mp translated with ⟨shape, here, _⟩
      rcases exists_translateSlot_of_part here member with ⟨part, there⟩
      exact induction there

/-- What has a translation is supported. -/
theorem supports_of_translateSlot {root : SchemaSlot} {type : TypeRef String}
    (translated : document.translateSlot root = some type) : document.Supports root where
  declared path walked := by
    rcases exists_translateSlot_of_walked translated walked with ⟨type, here⟩
    rw [translateSlot] at here
    rcases Option.map_eq_some_iff.mp here with ⟨target, designated, _⟩
    exact declares_of_designated designated
  filled schema walked isArray := by
    rcases exists_translateSlot_of_walked translated walked with ⟨type, here⟩
    rw [translateSlot] at here
    rcases Option.map_eq_some_iff.mp here with ⟨shape, there, _⟩
    exact items_ne_none_of_translate there isArray

end Document

end ApiGraph
