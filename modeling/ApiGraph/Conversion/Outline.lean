import ApiGraph.Document
import ApiGraph.Statistics
import ApiGraph.Types

namespace ApiGraph

/-! What a schema definition says about the shape of its type. The outline names the slots that have
to be followed, so that whatever walks a definition agrees on where it goes. -/

/-- The values of an enumeration decide on its primitive type when nothing else does: the first one
that is not null. -/
def Primitive.ofValues (values : List Json) : Primitive :=
  match values.find? fun value => match value with | .null => false | _ => true with
  | some (.string _) => .string
  | some (.number (.real _)) => .float
  | some (.number (.integer _)) => .int
  | some (.bool _) => .bool
  | _ => .unknown

/-- The format of text that is not meant to be read. -/
def binaryFormat : String := "binary"

def Primitive.ofType (type : TypeName) (format : Option String) : Primitive :=
  match type with
  | .string => if format = some binaryFormat then .binary else .string
  | .integer => .int
  | .number => .float
  | .boolean => .bool
  | _ => .unknown

inductive SchemaOutline where
  | map (value : SchemaSlot)
  | object (properties : Entries SchemaSlot)
  | array (items : Option SchemaSlot)
  | primitive (primitive : Primitive)
  /-- Nothing but null is said to be allowed. -/
  | untyped
  | unsupported

/-- Whether what an outline names is what a definition has in that place. -/
def SchemaOutline.Describes (schema : Schema) : SchemaOutline → Prop
  | .map value => schema.additionalSchema? = some value
  | .object properties => properties = schema.orderedProperties
  | .array items => items = schema.items
  | .primitive _ => True
  | .untyped => True
  | .unsupported => True

namespace Schema

/-- The outline of a definition that does not say its type. -/
def impliedOutline (schema : Schema) : SchemaOutline :=
  if !schema.properties.isEmpty then .object schema.orderedProperties
  else if schema.items.isSome then .array schema.items
  else if !schema.enumValues.isEmpty then .primitive (.ofValues schema.enumValues)
  else if schema.type.isSome then .untyped
  else .unsupported

def outline (schema : Schema) : SchemaOutline :=
  match schema.additionalSchema? with
  | some value => .map value
  | none =>
      match schema.primaryType? with
      | some .object => .object schema.orderedProperties
      | some .array => .array schema.items
      | some .unknown => .unsupported
      | some type => .primitive (.ofType type schema.format)
      | none => schema.impliedOutline

/-! ## Enumerations -/

/-- The values of an enumeration. They have names only where there is exactly one for each. -/
def enumEntries (schema : Schema) : List EnumEntry :=
  match schema.enumNames with
  | some names =>
      if names.length = schema.enumValues.length then
        List.zipWith (fun name value => ⟨some name, value⟩) names schema.enumValues
      else schema.enumValues.map fun value => ⟨none, value⟩
  | none => schema.enumValues.map fun value => ⟨none, value⟩

/-- The warning for an enumeration whose names are not used. -/
def enumWarning? (schema : Schema) (location : String) : Option Warning :=
  match schema.enumNames with
  | some names =>
      if names.length = schema.enumValues.length then none
      else some (.invalidEnumMetadata location schema.enumValues.length names.length)
  | none => none

/-! ## Size

The slots of an outline are parts of the definition. -/

theorem mem_of_mem_hinted {properties : Entries SchemaSlot} {seen hint : List String}
    {entry : String × SchemaSlot} (member : entry ∈ hinted properties seen hint) :
    entry ∈ properties := by
  induction hint generalizing seen with
  | nil => simp [hinted] at member
  | cons name hint induction =>
      unfold hinted at member
      split at member
      next slot found =>
        split at member
        · exact induction member
        · rcases List.mem_cons.mp member with equal | member
          · rw [equal]
            exact Entries.mem_of_value?_eq_some found
          · exact induction member
      next => exact induction member

theorem mem_of_mem_orderedProperties {schema : Schema} {entry : String × SchemaSlot}
    (member : entry ∈ schema.orderedProperties) : entry ∈ schema.properties := by
  unfold orderedProperties at member
  split at member
  · exact member
  · rcases List.mem_append.mp member with member | member
    · exact mem_of_mem_hinted member
    · exact (List.mem_filter.mp member).1

theorem sizeOf_lt_of_mem_properties {schema : Schema} {entry : String × SchemaSlot}
    (member : entry ∈ schema.properties) : sizeOf entry.2 < sizeOf schema := by
  have inside := List.sizeOf_lt_of_mem member
  obtain ⟨name, slot⟩ := entry
  cases schema
  simp only [Prod.mk.sizeOf_spec, Schema.mk.sizeOf_spec] at *
  omega

theorem sizeOf_lt_of_additionalSchema? {schema : Schema} {slot : SchemaSlot}
    (found : schema.additionalSchema? = some slot) : sizeOf slot < sizeOf schema := by
  unfold additionalSchema? at found
  split at found
  next here =>
    cases found
    cases schema
    simp only at here
    simp only [here, Schema.mk.sizeOf_spec, Option.some.sizeOf_spec,
      AdditionalProperties.schema.sizeOf_spec]
    omega
  next => cases found

theorem sizeOf_lt_of_items {schema : Schema} {slot : SchemaSlot}
    (found : schema.items = some slot) : sizeOf slot < sizeOf schema := by
  cases schema
  simp only at found
  simp only [found, Schema.mk.sizeOf_spec, Option.some.sizeOf_spec]
  omega

theorem describes_impliedOutline (schema : Schema) : schema.impliedOutline.Describes schema := by
  unfold impliedOutline
  split
  · rfl
  split
  · rfl
  split
  · trivial
  split <;> trivial

theorem describes_outline (schema : Schema) : schema.outline.Describes schema := by
  unfold outline
  split
  next found => exact found
  next =>
    split
    · rfl
    · rfl
    · trivial
    · trivial
    · exact describes_impliedOutline schema

theorem sizeOf_lt_of_outline_eq_map {schema : Schema} {slot : SchemaSlot}
    (outline : schema.outline = .map slot) : sizeOf slot < sizeOf schema := by
  have describes := describes_outline schema
  rw [outline] at describes
  exact sizeOf_lt_of_additionalSchema? describes

theorem outline_eq_object {schema : Schema} {properties : Entries SchemaSlot}
    (outline : schema.outline = .object properties) : properties = schema.orderedProperties := by
  have describes := describes_outline schema
  rw [outline] at describes
  exact describes

theorem outline_eq_array {schema : Schema} {items : Option SchemaSlot}
    (outline : schema.outline = .array items) : items = schema.items := by
  have describes := describes_outline schema
  rw [outline] at describes
  exact describes

theorem sizeOf_lt_of_outline_eq_object {schema : Schema} {properties : Entries SchemaSlot}
    (outline : schema.outline = .object properties) {entry : String × SchemaSlot}
    (member : entry ∈ properties) : sizeOf entry.2 < sizeOf schema :=
  sizeOf_lt_of_mem_properties
    (mem_of_mem_orderedProperties (outline_eq_object outline ▸ member))

theorem sizeOf_lt_of_outline_eq_array {schema : Schema} {slot : SchemaSlot}
    (outline : schema.outline = .array (some slot)) : sizeOf slot < sizeOf schema :=
  sizeOf_lt_of_items (outline_eq_array outline).symm

end Schema

end ApiGraph
