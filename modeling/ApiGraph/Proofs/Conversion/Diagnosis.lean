import ApiGraph.Proofs.Conversion.Handlers

namespace ApiGraph

/-! # What is told of definitions

A warning tells of one definition and of the place that a walk found it at. Which definitions a walk
comes to, and what it tells of each, is said here without any walk: the slots that are parts of a
definition are followed through inline definitions, and every definition on the way is looked at by
itself. -/

namespace Schema

instance (schema : Schema) : Decidable schema.IsObject := inferInstanceAs (Decidable (_ ∧ _))

instance (schema : Schema) : Decidable schema.IsArray := inferInstanceAs (Decidable (_ ∧ _))

/-- Nothing tells which shape the definition has: its type has a name that nobody knows, or it has
no type at all, be it left out or null, and nothing to guess one from. -/
def IsShapeless (schema : Schema) : Prop :=
  schema.additionalSchema? = none ∧
    (schema.mainType? = some .unknown ∨
      schema.type = none ∧ schema.properties = [] ∧ schema.items = none ∧ schema.enumValues = [])

/-- The definition is one of a single value: its type says so, or else it has values and nothing that
comes first. -/
def IsPrimitive (schema : Schema) : Prop :=
  schema.additionalSchema? = none ∧
    ((∃ type ∈ [TypeName.string, .integer, .number, .boolean], schema.mainType? = some type) ∨
      schema.mainType? = none ∧ schema.properties = [] ∧ schema.items = none ∧
        schema.enumValues ≠ [])

/-! ## Outlines -/

theorem mainType?_mem {schema : Schema} {type : TypeName} (typed : schema.mainType? = some type) :
    type ∈ schema.typeNames ∧ type ≠ .null := by
  simpa using List.mem_filter.mp (List.mem_of_mem_head? typed)

theorem impliedOutline_iff {schema : Schema} :
    (schema.impliedOutline = .unsupported ↔
        schema.type = none ∧ schema.properties = [] ∧ schema.items = none ∧
          schema.enumValues = []) ∧
      ((∃ primitive, schema.impliedOutline = .primitive primitive) ↔
        schema.properties = [] ∧ schema.items = none ∧ schema.enumValues ≠ []) := by
  unfold impliedOutline
  by_cases properties : schema.properties = []
  · by_cases items : schema.items = none
    · by_cases values : schema.enumValues = []
      · cases typed : schema.type <;> simp [properties, items, values]
      · simp [properties, items, values]
    · simp [properties, items, Option.isSome_iff_ne_none]
  · simp [properties]

theorem outline_eq_unsupported_iff {schema : Schema} :
    schema.outline = .unsupported ↔ schema.IsShapeless := by
  rw [outline, primaryType?_eq, IsShapeless]
  cases schema.additionalSchema? with
  | some value => simp
  | none =>
      cases typed : schema.mainType? with
      | some type =>
          have given : schema.type ≠ none := by
            intro absent
            have listed := (mainType?_mem typed).1
            rw [typeNames, absent] at listed
            cases listed
          cases type <;> simp [given]
      | none => simpa using impliedOutline_iff.1

theorem outline_eq_primitive_iff {schema : Schema} :
    (∃ primitive, schema.outline = .primitive primitive) ↔ schema.IsPrimitive := by
  rw [outline, primaryType?_eq, IsPrimitive]
  cases schema.additionalSchema? with
  | some value => simp
  | none =>
      cases typed : schema.mainType? with
      | some type =>
          cases type with
          | null => exact absurd rfl (mainType?_mem typed).2
          | _ => simp
      | none => simpa using impliedOutline_iff.2

/-! ## Parts with their places -/

/-- The parts of a definition, each with what its place adds to that of the definition. -/
def parts (schema : Schema) : Entries SchemaSlot :=
  match schema.additionalProperties with
  | some (.schema value) => [("\x7b\x7d", value)]
  | _ =>
      if schema.IsObject then
        schema.orderedProperties.map fun (name, slot) => ("." ++ name, slot)
      else if schema.IsArray then schema.items.toList.map fun slot => ("[]", slot)
      else []

theorem part_of_mem_parts {schema : Schema} {entry : String × SchemaSlot}
    (member : entry ∈ schema.parts) : schema.Part entry.2 := by
  unfold parts at member
  split at member
  next value found =>
    rw [List.mem_singleton.mp member]
    exact .value found
  next =>
    split at member
    next shape =>
      rcases List.mem_map.mp member with ⟨property, inside, rfl⟩
      exact .property shape (mem_orderedProperties.mp inside)
    next =>
      split at member
      next shape =>
        rcases List.mem_map.mp member with ⟨slot, inside, rfl⟩
        exact .items shape (Option.mem_toList.mp inside)
      next => cases member

theorem Part.sizeOf_lt {schema : Schema} {slot : SchemaSlot} (part : schema.Part slot) :
    sizeOf slot < sizeOf schema := by
  cases part with
  | value found => exact sizeOf_lt_of_additionalSchema? (additionalSchema?_eq_some_iff.mpr found)
  | property _ has => exact sizeOf_lt_of_mem_properties has.1
  | items _ found => exact sizeOf_lt_of_items found

end Schema

/-! ## Visits

Nothing behind a reference is part of a walk. -/

mutual

/-- The definitions that a walk of a slot comes to, each with its place. -/
def slotVisits (slot : SchemaSlot) (location : String) : List (String × Schema) :=
  match slot with
  | .reference _ => []
  | .inline schema => schema.visits location
termination_by sizeOf slot

def Schema.visits (schema : Schema) (location : String) : List (String × Schema) :=
  (location, schema) :: schema.parts.attach.flatMap fun ⟨(suffix, slot), _⟩ =>
    slotVisits slot (location ++ suffix)
termination_by sizeOf schema
decreasing_by exact (Schema.part_of_mem_parts ‹_›).sizeOf_lt

end

theorem Schema.visits_eq (schema : Schema) (location : String) :
    schema.visits location = (location, schema) :: schema.parts.flatMap fun (suffix, slot) =>
      slotVisits slot (location ++ suffix) := by
  rw [visits, List.flatMap_subtype fun _ _ => rfl, List.unattach_attach]

namespace Schema

/-- What is told of a definition at a place, apart from what lies inside it. -/
def diagnosis? (schema : Schema) (location : String) : Option Warning :=
  match schema.outline with
  | .unsupported => some (.unsupportedSchema location)
  | .primitive _ => schema.enumWarning? location
  | _ => none

end Schema

/-- What is told of all definitions in a slot. -/
def slotDiagnoses (slot : SchemaSlot) (location : String) : List Warning :=
  (slotVisits slot location).filterMap fun (place, schema) => schema.diagnosis? place

def Schema.diagnoses (schema : Schema) (location : String) : List Warning :=
  (schema.visits location).filterMap fun (place, schema) => schema.diagnosis? place

namespace Schema

variable {schema : Schema} {location place : String}

theorem diagnosis?_eq_unsupported_iff :
    schema.diagnosis? location = some (.unsupportedSchema place) ↔
      place = location ∧ schema.IsShapeless := by
  rw [← outline_eq_unsupported_iff, diagnosis?]
  cases schema.outline with
  | unsupported => simp [eq_comm]
  | primitive primitive =>
      dsimp only [enumWarning?]
      split
      · split <;> simp
      · simp
  | _ => simp

theorem diagnosis?_eq_invalidEnum_iff {values names : Nat} :
    schema.diagnosis? location = some (.invalidEnumMetadata place values names) ↔
      place = location ∧ schema.IsPrimitive ∧ values = schema.enumValues.length ∧
        names ≠ values ∧ ∃ list, schema.enumNames = some list ∧ list.length = names := by
  rw [← outline_eq_primitive_iff, diagnosis?]
  cases schema.outline with
  | primitive primitive =>
      dsimp only [enumWarning?]
      cases schema.enumNames with
      | none => simp
      | some list =>
          by_cases equal : list.length = schema.enumValues.length
          · simp [equal]
            grind
          · simp [equal]
            grind
  | _ => simp

end Schema

/-! ## Walks -/

/-- The slots that an outline names. -/
def SchemaOutline.parts : SchemaOutline → Entries SchemaSlot
  | .map value => [("\x7b\x7d", value)]
  | .object properties => properties.map fun (name, slot) => ("." ++ name, slot)
  | .array items => items.toList.map fun slot => ("[]", slot)
  | _ => []

namespace Schema

variable {schema : Schema} {location : String}

theorem parts_outline (schema : Schema) : schema.outline.parts = schema.parts := by
  unfold parts
  split
  next value found =>
    rw [outline_eq_map_iff.mpr found]
    rfl
  next unmapped =>
    split
    next shape =>
      rw [outline_of_isObject shape]
      rfl
    next noObject =>
      split
      next shape =>
        rw [outline_of_isArray shape]
        rfl
      next noArray =>
        cases outline : schema.outline with
        | map value => exact absurd (outline_eq_map_iff.mp outline) (unmapped value)
        | object properties => exact absurd (isObject_of_outline outline) noObject
        | array items => exact absurd (isArray_of_outline outline) noArray
        | _ => rfl

theorem diagnoses_eq (schema : Schema) (location : String) :
    schema.diagnoses location = (schema.diagnosis? location).toList ++
      schema.outline.parts.flatMap fun (suffix, slot) =>
        slotDiagnoses slot (location ++ suffix) := by
  rw [diagnoses, visits_eq, parts_outline, List.filterMap_cons, List.filterMap_flatMap]
  dsimp only
  cases schema.diagnosis? location <;> rfl

end Schema

mutual

theorem warnings_slotTally (slot : SchemaSlot) (location : String) :
    (slotTally slot location).warnings = slotDiagnoses slot location := by
  cases slot with
  | reference path => rw [slotTally, slotDiagnoses, slotVisits, List.filterMap_nil]
  | inline schema =>
      rw [slotTally, slotDiagnoses, slotVisits, Tally.warnings_append,
        warnings_shapeTally schema location, List.append_nil, Schema.diagnoses]
termination_by (sizeOf slot, 0, 0)

/-- A walk of a definition tells what there is to tell of the definitions that it comes to. -/
theorem warnings_shapeTally (schema : Schema) (location : String) :
    (shapeTally schema location).warnings = schema.diagnoses location := by
  rw [schema.diagnoses_eq, Schema.diagnosis?]
  cases outline : schema.outline with
  | map value =>
      rw [shapeTally_of_map outline, warnings_slotTally value]
      simp [SchemaOutline.parts]
  | object properties =>
      rw [shapeTally_of_object outline, warnings_propertyTally schema properties]
      simp [SchemaOutline.parts, List.flatMap_map, String.append_assoc]
  | array items? =>
      cases items? with
      | none =>
          rw [shapeTally_of_array_none outline]
          rfl
      | some items =>
          rw [shapeTally_of_array outline, warnings_slotTally items]
          simp [SchemaOutline.parts]
  | primitive primitive =>
      rw [shapeTally_of_primitive outline]
      simp [SchemaOutline.parts]
  | untyped =>
      rw [shapeTally_of_untyped outline]
      rfl
  | unsupported =>
      rw [shapeTally_of_unsupported outline]
      rfl
termination_by (sizeOf schema, 1, 0)
decreasing_by
  · exact Prod.Lex.left _ _ (Schema.sizeOf_lt_of_outline_eq_map ‹_›)
  · exact Prod.Lex.right _ (Prod.Lex.left _ _ Nat.zero_lt_one)
  · exact Prod.Lex.left _ _ (Schema.sizeOf_lt_of_outline_eq_array ‹_›)

theorem warnings_propertyTally (schema : Schema) (properties : Entries SchemaSlot)
    (inside : ∀ entry ∈ properties, sizeOf entry.2 < sizeOf schema) (location : String) :
    (propertyTally schema properties inside location).warnings =
      properties.flatMap fun (name, slot) => slotDiagnoses slot (location ++ "." ++ name) := by
  match properties with
  | [] =>
      rw [propertyTally]
      rfl
  | (name, slot) :: rest =>
      rw [propertyTally, Tally.warnings_append, warnings_slotTally slot,
        warnings_propertyTally schema rest, List.flatMap_cons]
termination_by (sizeOf schema, 0, properties.length)
decreasing_by
  · exact Prod.Lex.left _ _ (inside (name, slot) (.head _))
  · exact Prod.Lex.right _ (Prod.Lex.right _ (Nat.lt_succ_self _))

end

/-! ## Operations

The slots of an operation have places of their own. A parameter without a schema is told of like a
definition without a shape. -/

def parameterDiagnoses (handler : String) (parameter : Parameter) : List Warning :=
  let location := handler ++ ".param(" ++ parameter.name ++ ")"
  match parameter.schema with
  | some slot => slotDiagnoses slot location
  | none => [.unsupportedSchema location]

def bodyDiagnoses (location : String) : Option SchemaSlot → List Warning
  | none => []
  | some slot => slotDiagnoses slot location

def OperationParts.diagnoses (parts : OperationParts) (handler : String) : List Warning :=
  parts.parameters.flatMap (parameterDiagnoses handler) ++
    bodyDiagnoses (handler ++ ".request") (parts.request.map Prod.snd) ++
    bodyDiagnoses (handler ++ ".response") parts.response

theorem warnings_parameterTally (handler : String) (parameter : Parameter) :
    (parameterTally handler parameter).warnings = parameterDiagnoses handler parameter := by
  unfold parameterTally parameterDiagnoses
  cases parameter.schema with
  | none => rfl
  | some slot => exact warnings_slotTally slot _

theorem warnings_bodyTally (location : String) (slot? : Option SchemaSlot) :
    (bodyTally location slot?).warnings = bodyDiagnoses location slot? := by
  cases slot? with
  | none => rfl
  | some slot => exact warnings_slotTally slot location

theorem Tally.warnings_sum {α : Type} (tally : α → Tally) (items : List α) :
    (Tally.sum (items.map tally)).warnings = items.flatMap fun item => (tally item).warnings := by
  induction items with
  | nil => rfl
  | cons item rest induction =>
      rw [List.map_cons, Tally.sum, Tally.warnings_append, induction, List.flatMap_cons]

theorem OperationParts.warnings_tally (parts : OperationParts) (handler : String) :
    (parts.tally handler).warnings = parts.diagnoses handler := by
  simp only [tally, diagnoses, Tally.warnings_append, Tally.warnings_sum, warnings_parameterTally,
    warnings_bodyTally, List.append_nil]

/-! ## Documents -/

namespace Document

variable (document : Document)

/-- The components that are definitions of their own, each once. -/
def definitions : Entries Schema :=
  (Entries.names document.components.schemas).dedup.filterMap fun name =>
    match document.schema? name with
    | some (.inline schema) => some (name, schema)
    | _ => none

def operationDiagnoses (entry : OperationEntry) : List Warning :=
  match document.operationParts entry with
  | .ok parts => parts.diagnoses entry.handlerName
  | .error _ => []

theorem warnings_operationTally (entry : OperationEntry) :
    (document.operationTally entry).warnings = document.operationDiagnoses entry := by
  unfold operationTally operationDiagnoses
  cases document.operationParts entry with
  | error error => rfl
  | ok parts => exact parts.warnings_tally entry.handlerName

theorem mem_definitions_iff {name : String} {schema : Schema} :
    (name, schema) ∈ document.definitions ↔ document.schema? name = some (.inline schema) := by
  rw [definitions, List.mem_filterMap]
  constructor
  · intro listed
    rcases listed with ⟨other, _, found⟩
    split at found
    next inner declared =>
      cases found
      exact declared
    next => cases found
  · intro declared
    have member := Entries.mem_names_of_value?_eq_some declared
    exact ⟨name, List.mem_dedup.mpr member, by rw [declared]⟩

theorem nodup_definitions : (Entries.names document.definitions).Nodup := by
  rw [Entries.names, definitions, List.map_filterMap]
  apply (List.nodup_dedup _).filterMap
  intro first second name found same
  rw [Option.mem_def, Option.map_eq_some_iff] at found same
  rcases found with ⟨entry, found, rfl⟩
  rcases same with ⟨other, same, equal⟩
  split at found <;> cases found
  split at same <;> cases same
  exact equal.symm

end Document

end ApiGraph
