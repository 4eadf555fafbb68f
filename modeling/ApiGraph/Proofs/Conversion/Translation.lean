import ApiGraph.Conversion.Schema
import ApiGraph.Proofs.Chain

namespace ApiGraph

/-! # The translation of definitions

Which type a definition stands for, in terms of the document alone. Nothing here depends on what was
converted before: a reference becomes the name of the concrete component that it leads to, and
everything else is read off the definition itself. The conversion is measured against this in
`ApiGraph.Proofs.Conversion.Components`. -/

namespace Document

variable (document : Document)

/-- A name stands for the definition that its chain of references ends at. -/
abbrev LeadsTo (first last : String) (schema : Schema) : Prop :=
  Referable.LeadsTo document.components.schemas Pointer.schema? first last schema

/-- The concrete component that a reference leads to. -/
def designated? (path : String) : Option (String × Schema) :=
  (Pointer.schema? path).bind
    (Referable.follow document.components.schemas Pointer.schema?)

theorem designated?_eq_some {document : Document} {path name last : String} {schema : Schema}
    (named : Pointer.schema? path = some name) (leads : document.LeadsTo name last schema) :
    document.designated? path = some (last, schema) := by
  rw [designated?, named, Option.bind_some]
  exact Referable.follow_eq_some_iff.mpr leads

/-- What is said about the type in a slot. -/
def describe : SchemaSlot → Option String
  | .inline schema => schema.summary?
  | .reference path => (document.designated? path).bind fun (_, schema) => schema.summary?

end Document

/-! ## What a definition says by itself

The converter reads a definition with functions of its own. Here it is said again what they read, and
the functions are shown to agree. -/

namespace Primitive

/-- The primitive types by the type that is said and by its format. Where a row has no format any
will do, and the first row that fits counts. -/
def table : List (TypeName × Option String × Primitive) := [
  (.string, some "binary", .binary),
  (.string, none, .string),
  (.integer, none, .int),
  (.number, none, .float),
  (.boolean, none, .bool)]

def tabulated (type : TypeName) (format : Option String) : Primitive :=
  match table.find? fun (name, only, _) => name = type ∧ (only = none ∨ only = format) with
  | some (_, _, primitive) => primitive
  | none => .unknown

theorem ofType_eq (type : TypeName) (format : Option String) :
    ofType type format = tabulated type format := by
  cases type with
  | string =>
      by_cases binary : format = some "binary"
      · simp [ofType, tabulated, table, binaryFormat, binary]
      · simp [ofType, tabulated, table, binaryFormat, binary, Ne.symm binary]
  | _ => simp [ofType, tabulated, table]

/-- The primitive type of one value. Numbers are told apart by how they are written. -/
def ofValue : Json → Primitive
  | .string _ => .string
  | .number (.integer _) => .int
  | .number (.real _) => .float
  | .bool _ => .bool
  | _ => .unknown

/-- The primitive type of the first value that is not null. -/
def ofFirst : List Json → Primitive
  | [] => .unknown
  | .null :: rest => ofFirst rest
  | value :: _ => ofValue value

theorem ofValues_eq (values : List Json) : ofValues values = ofFirst values := by
  induction values with
  | nil => rfl
  | cons value rest induction =>
      cases value with
      | null => exact induction
      | number value => cases value <;> rfl
      | _ => rfl

end Primitive

namespace Schema

/-- The types that a definition lists. -/
def typeNames (schema : Schema) : List TypeName :=
  match schema.type with
  | none => []
  | some (.single name) => [name]
  | some (.anyOf names) => names

/-- The first type that is not null. -/
def mainType? (schema : Schema) : Option TypeName :=
  (schema.typeNames.filter (· ≠ .null)).head?

theorem primaryType?_eq (schema : Schema) : schema.primaryType? = schema.mainType? := by
  unfold primaryType? mainType? typeNames
  cases schema.type with
  | none => rfl
  | some types =>
      cases types with
      | single name => cases name <;> rfl
      | anyOf names =>
          rw [List.head?_filter]
          simp only [TypeSet.primary?, Option.bind_some, bne, ne_eq, decide_not]
          rfl

theorem additionalSchema?_eq_some_iff {schema : Schema} {slot : SchemaSlot} :
    schema.additionalSchema? = some slot ↔
      schema.additionalProperties = some (.schema slot) := by
  unfold additionalSchema?
  split
  next found => simp [found]
  next other => simpa using other slot

/-- The first of the title and the description that is not empty. -/
def headline? (schema : Schema) : Option String :=
  ([schema.title, schema.description].filterMap id).find? (· ≠ "")

theorem summary?_eq (schema : Schema) : schema.summary? = schema.headline? := by
  unfold summary? headline?
  rcases schema.title with _ | title <;> rcases schema.description with _ | description
  · rfl
  · by_cases described : description = "" <;> simp [Option.filter, described]
  · by_cases titled : title = "" <;> simp [Option.filter, titled]
  · by_cases titled : title = "" <;> by_cases described : description = "" <;>
      simp [Option.filter, titled, described]

/-- The name of the value at a position, where there are as many names as values. -/
def valueName? (schema : Schema) (position : Nat) : Option String :=
  schema.enumNames.bind fun names =>
    if names.length = schema.enumValues.length then names[position]? else none

def valueEntries (schema : Schema) : List EnumEntry :=
  schema.enumValues.mapIdx fun position value => ⟨schema.valueName? position, value⟩

end Schema

mutual

/-- The type in a slot, unless a reference in it leads nowhere. -/
def Document.translateSlot (document : Document) (slot : SchemaSlot) : Option (TypeRef String) :=
  match slot with
  | .reference path => (document.designated? path).map fun (name, _) => .named name
  | .inline schema => (document.translate schema).map .inline
termination_by (sizeOf slot, 0, 0)

/-- The shape of a definition: a map where its additional properties have to be of some type, and
otherwise what its type says, or else the first of properties, items and values that it has. -/
def Document.translate (document : Document) (schema : Schema) : Option (Shape String) :=
  match _ : schema.additionalProperties with
  | some (.schema value) => (document.translateSlot value).map .map
  | _ =>
      match schema.mainType? with
      | some .object => document.translateObject schema
      | some .array => document.translateArray schema
      | some .unknown => some .unknown
      | some type => some (.primitive (.tabulated type schema.format) schema.valueEntries)
      | none =>
          if schema.properties ≠ [] then document.translateObject schema
          else if schema.items ≠ none then document.translateArray schema
          else if schema.enumValues ≠ [] then
            some (.primitive (.ofFirst schema.enumValues) schema.valueEntries)
          else some .unknown
termination_by (sizeOf schema, 2, 0)
decreasing_by
  · have found := Schema.additionalSchema?_eq_some_iff.mpr ‹_›
    exact Prod.Lex.left _ _ (Schema.sizeOf_lt_of_additionalSchema? found)
  all_goals exact Prod.Lex.right _ (Prod.Lex.left _ _ (by omega))

def Document.translateObject (document : Document) (schema : Schema) : Option (Shape String) :=
  (document.translateFields schema schema.orderedProperties fun _ member =>
    Schema.sizeOf_lt_of_mem_properties (Schema.mem_of_mem_orderedProperties member)).map .object
termination_by (sizeOf schema, 1, 0)

def Document.translateArray (document : Document) (schema : Schema) : Option (Shape String) :=
  match _ : schema.items with
  | some items => (document.translateSlot items).map .array
  | none => none
termination_by (sizeOf schema, 1, 0)
decreasing_by exact Prod.Lex.left _ _ (Schema.sizeOf_lt_of_items ‹_›)

def Document.translateFields (document : Document) (schema : Schema)
    (properties : Entries SchemaSlot)
    (inside : ∀ entry ∈ properties, sizeOf entry.2 < sizeOf schema) :
    Option (List (TypeField String)) :=
  match properties with
  | [] => some []
  | (name, slot) :: rest =>
      (document.translateSlot slot).bind fun type =>
        (document.translateFields schema rest fun entry member =>
          inside entry (.tail _ member)).map fun fields =>
            ⟨name, document.describe slot, type, decide (name ∈ schema.required)⟩ :: fields
termination_by (sizeOf schema, 0, properties.length)
decreasing_by
  · exact Prod.Lex.left _ _ (inside (name, slot) (.head _))
  · exact Prod.Lex.right _ (Prod.Lex.right _ (Nat.lt_succ_self _))

end

/-! ## The translation and the outline of a definition -/

theorem Schema.enumEntries_eq (schema : Schema) : schema.enumEntries = schema.valueEntries := by
  unfold enumEntries valueEntries
  cases named : schema.enumNames with
  | none =>
      apply List.ext_getElem
      · simp
      · intro position _ _
        simp [valueName?, named]
  | some names =>
      by_cases equal : names.length = schema.enumValues.length
      · apply List.ext_getElem
        · simp [equal]
        · intro position _ inside
          have named_ : position < names.length := by simpa [equal] using inside
          simp [valueName?, named, equal, List.getElem?_eq_getElem named_]
      · apply List.ext_getElem
        · simp [equal]
        · intro position _ _
          simp [valueName?, named, equal]

namespace Document

variable (document : Document)

/-- The shape of a definition with the given outline. -/
def translateOutline (schema : Schema) : SchemaOutline → Option (Shape String)
  | .map value => (document.translateSlot value).map .map
  | .object _ => document.translateObject schema
  | .array _ => document.translateArray schema
  | .primitive primitive => some (.primitive primitive schema.enumEntries)
  | .untyped => some .unknown
  | .unsupported => some .unknown

theorem translate_eq (schema : Schema) :
    document.translate schema = document.translateOutline schema schema.outline := by
  rw [translate, Schema.outline, Schema.primaryType?_eq]
  split
  next value found =>
    simp only [Schema.additionalSchema?_eq_some_iff.mpr found, translateOutline]
  next other =>
    have unmapped : schema.additionalSchema? = none := by
      apply Option.eq_none_iff_forall_ne_some.mpr
      intro slot found
      exact other slot (Schema.additionalSchema?_eq_some_iff.mp found)
    simp only [unmapped]
    cases typed : schema.mainType? with
    | some type =>
        cases type <;> simp [translateOutline, Schema.enumEntries_eq, Primitive.ofType_eq]
    | none =>
        simp only [Schema.impliedOutline]
        by_cases properties : schema.properties = []
        · by_cases items : schema.items = none
          · by_cases values : schema.enumValues = []
            · by_cases typed : schema.type.isSome <;>
                simp [properties, items, values, typed, translateOutline]
            · simp [properties, items, values, translateOutline, Schema.enumEntries_eq,
                Primitive.ofValues_eq]
          · simp [properties, items, Option.isSome_iff_ne_none, translateOutline]
        · simp [properties, translateOutline]

theorem translateArray_eq {schema : Schema} {slot : SchemaSlot}
    (items : schema.items = some slot) :
    document.translateArray schema = (document.translateSlot slot).map .array := by
  rw [translateArray]
  split
  next found =>
    rw [items] at found
    cases found
    rfl
  next found =>
    rw [items] at found
    cases found

theorem translateArray_of_none {schema : Schema} (items : schema.items = none) :
    document.translateArray schema = none := by
  rw [translateArray]
  split
  next found =>
    rw [items] at found
    cases found
  next => rfl

/-! ## Summaries at the end of a chain -/

theorem summaryWithin_eq {steps : Nat} {name : String} {slot : SchemaSlot}
    (declared : document.schema? name = some slot) :
    document.summaryWithin steps slot =
      (Referable.followWithin document.components.schemas Pointer.schema? steps name).bind
        fun (_, schema) => schema.summary? := by
  induction steps generalizing name slot with
  | zero => rfl
  | succ steps induction =>
      have declared_ : Entries.value? document.components.schemas name = some slot := declared
      cases slot with
      | inline schema => simp [summaryWithin, Referable.followWithin, declared_]
      | reference path =>
          simp only [summaryWithin, definition?, Referable.followWithin, declared_]
          cases Pointer.schema? path with
          | none => rfl
          | some next =>
              simp only [Option.bind_some]
              cases found : document.schema? next with
              | some slot => exact induction found
              | none => rw [Referable.followWithin_of_undeclared found]; rfl

theorem summaryOf_eq (slot : SchemaSlot) : document.summaryOf slot = document.describe slot := by
  cases slot with
  | inline schema => rfl
  | reference path =>
      simp only [summaryOf, summaryWithin, definition?, describe, designated?]
      cases Pointer.schema? path with
      | none => rfl
      | some next =>
          simp only [Option.bind_some]
          cases found : document.schema? next with
          | some slot => exact document.summaryWithin_eq found
          | none => rw [Referable.follow, Referable.followWithin_of_undeclared found]; rfl

end Document

end ApiGraph
