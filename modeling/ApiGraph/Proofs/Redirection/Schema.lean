import ApiGraph.Proofs.Conversion.Handlers
import ApiGraph.Proofs.Related
import Mathlib

namespace ApiGraph

/-! # Definitions with other references

Two definitions may be the same but for the slots inside them, and the slots may differ in how
references are written. Such definitions have the same outline. Where the references mean the same,
the definitions are translated to the same type and come to the same tally. -/

/-! ## Related definitions -/

inductive AdditionalProperties.Rel {σ τ : Type} (Related : σ → τ → Prop) :
    AdditionalProperties σ → AdditionalProperties τ → Prop where
  | allowed (answer : Bool) : Rel Related (.allowed answer) (.allowed answer)
  | schema {value : σ} {other : τ} (related : Related value other) :
      Rel Related (.schema value) (.schema other)

/-- Slots that are the same but for how references are written, at any depth. -/
inductive Redirects (Same : String → String → Prop) : SchemaSlot → SchemaSlot → Prop where
  | reference {path other : String} (same : Same path other) :
      Redirects Same (.reference path) (.reference other)
  | inline {schema : Schema} {properties : Entries SchemaSlot} {items : Option SchemaSlot}
      {additional : Option (AdditionalProperties SchemaSlot)}
      (slots : Entries.Rel (Redirects Same) schema.properties properties)
      (elements : Option.Rel (Redirects Same) schema.items items)
      (values : Option.Rel (AdditionalProperties.Rel (Redirects Same))
        schema.additionalProperties additional) :
      Redirects Same (.inline schema) (.inline { schema with
        properties := properties, items := items, additionalProperties := additional })

/-- Definitions that are the same but for related slots. -/
inductive Schema.Rel (Related : SchemaSlot → SchemaSlot → Prop) : Schema → Schema → Prop where
  | intro {schema : Schema} {properties : Entries SchemaSlot} {items : Option SchemaSlot}
      {additional : Option (AdditionalProperties SchemaSlot)}
      (slots : Entries.Rel Related schema.properties properties)
      (elements : Option.Rel Related schema.items items)
      (values : Option.Rel (AdditionalProperties.Rel Related) schema.additionalProperties
        additional) :
      Rel Related schema { schema with
        properties := properties, items := items, additionalProperties := additional }

namespace Redirects

variable {Same : String → String → Prop}

/-- What holds of references and is handed on from the slots of two definitions to the definitions
holds throughout. -/
theorem induction {motive : SchemaSlot → SchemaSlot → Prop}
    (reference : ∀ {path other}, Same path other → motive (.reference path) (.reference other))
    (inline : ∀ {schema other}, Schema.Rel motive schema other →
      motive (.inline schema) (.inline other)) {slot other : SchemaSlot}
    (redirects : Redirects Same slot other) : motive slot other := by
  refine @Redirects.rec Same (fun slot other _ => motive slot other)
    (fun entries others _ => Entries.Rel motive entries others)
    (fun items others _ => Option.Rel motive items others)
    (fun values others _ => Option.Rel (AdditionalProperties.Rel motive) values others)
    (fun value other _ => AdditionalProperties.Rel motive value other)
    ?_ ?_ ?_ ?_ ?_ ?_ ?_ ?_ ?_ ?_ slot other redirects
  · exact reference
  · intro schema properties items additional _ _ _ slots elements values
    exact inline (.intro slots elements values)
  · exact .nil
  · intro name value other entries others _ _ here rest
    exact .cons here rest
  · intro value other _ here
    exact .some here
  · exact .none
  · intro value other _ here
    exact .some here
  · exact .none
  · exact .allowed
  · intro value other _ here
    exact .schema here

theorem refl (same : ∀ path, Same path path) (slot : SchemaSlot) : Redirects Same slot slot := by
  match slot with
  | .reference path => exact .reference (same path)
  | .inline schema =>
      have slots : Entries.Rel (Redirects Same) schema.properties schema.properties := by
        apply Entries.Rel.refl
        intro entry member
        exact refl same entry.2
      have elements : Option.Rel (Redirects Same) schema.items schema.items := by
        cases found : schema.items with
        | none => exact .none
        | some items => exact .some (refl same items)
      have values : Option.Rel (AdditionalProperties.Rel (Redirects Same))
          schema.additionalProperties schema.additionalProperties := by
        cases found : schema.additionalProperties with
        | none => exact .none
        | some additional =>
            cases additional with
            | allowed answer => exact .some (.allowed answer)
            | schema value => exact .some (.schema (refl same value))
      have redirects := Redirects.inline slots elements values
      cases schema
      exact redirects
termination_by sizeOf slot
decreasing_by
  · have inside := Schema.sizeOf_lt_of_mem_properties member
    rw [Referable.inline.sizeOf_spec]
    omega
  · have inside := Schema.sizeOf_lt_of_items found
    rw [Referable.inline.sizeOf_spec]
    omega
  · have described : schema.additionalSchema? = some value := by
      rw [Schema.additionalSchema?, found]
    have inside := Schema.sizeOf_lt_of_additionalSchema? described
    rw [Referable.inline.sizeOf_spec]
    omega

end Redirects

/-! ## Related outlines -/

/-- Outlines that are the same but for related slots. -/
inductive SchemaOutline.Rel (Related : SchemaSlot → SchemaSlot → Prop) :
    SchemaOutline → SchemaOutline → Prop where
  | map {value other : SchemaSlot} (related : Related value other) :
      Rel Related (.map value) (.map other)
  | object {properties others : Entries SchemaSlot}
      (related : Entries.Rel Related properties others) :
      Rel Related (.object properties) (.object others)
  | array {items others : Option SchemaSlot} (related : Option.Rel Related items others) :
      Rel Related (.array items) (.array others)
  | primitive (primitive : Primitive) : Rel Related (.primitive primitive) (.primitive primitive)
  | untyped : Rel Related .untyped .untyped
  | unsupported : Rel Related .unsupported .unsupported

namespace Schema

variable {Related : SchemaSlot → SchemaSlot → Prop}

theorem rel_hinted {properties others : Entries SchemaSlot}
    (related : Entries.Rel Related properties others) (seen hint : List String) :
    Entries.Rel Related (hinted properties seen hint) (hinted others seen hint) := by
  induction hint generalizing seen with
  | nil => exact .nil
  | cons name hint induction =>
      have held := related.value? name
      unfold hinted
      generalize Entries.value? properties name = slot? at held
      generalize Entries.value? others name = other? at held
      cases held with
      | none => exact induction seen
      | some here =>
          dsimp only
          split
          · exact induction seen
          · exact .cons here (induction _)

namespace Rel

variable {schema other : Schema} (related : Schema.Rel Related schema other)

include related

theorem properties : Entries.Rel Related schema.properties other.properties := by
  cases related with
  | intro slots _ _ => exact slots

theorem items : Option.Rel Related schema.items other.items := by
  cases related with
  | intro _ elements _ => exact elements

theorem additionalSchema? :
    Option.Rel Related schema.additionalSchema? other.additionalSchema? := by
  cases related with
  | intro _ _ values =>
      simp only [Schema.additionalSchema?]
      generalize schema.additionalProperties = held at values
      cases values with
      | none => exact .none
      | some here =>
          cases here with
          | allowed answer => exact .none
          | schema here => exact .some here

omit related in
theorem imp {Implied : SchemaSlot → SchemaSlot → Prop} (related : Schema.Rel Related schema other)
    (implied : ∀ {slot other}, Related slot other → Implied slot other) :
    Schema.Rel Implied schema other := by
  cases related with
  | intro slots elements values =>
      refine .intro (slots.imp implied) (rel_imp implied elements) (rel_imp ?_ values)
      intro value other here
      cases here with
      | allowed answer => exact .allowed answer
      | schema here => exact .schema (implied here)

theorem orderedProperties :
    Entries.Rel Related schema.orderedProperties other.orderedProperties := by
  have slots := related.properties
  have hints : other.propertyOrder = schema.propertyOrder := by cases related; rfl
  rw [Schema.orderedProperties, Schema.orderedProperties, hints]
  cases schema.propertyOrder with
  | none => exact slots
  | some hint =>
      exact (rel_hinted slots [] hint).append (slots.filter fun name => !hint.contains name)

theorem impliedOutline :
    SchemaOutline.Rel Related schema.impliedOutline other.impliedOutline := by
  have properties := related.properties.isEmpty_eq
  have items : other.items.isSome = schema.items.isSome := by
    have items := related.items
    generalize schema.items = items? at items
    generalize other.items = others? at items
    cases items <;> rfl
  have values : other.enumValues = schema.enumValues := by cases related; rfl
  have type : other.type = schema.type := by cases related; rfl
  unfold Schema.impliedOutline
  rw [properties, items, values, type]
  split
  · exact .object related.orderedProperties
  split
  · exact .array related.items
  split
  · exact .primitive _
  split
  · exact .untyped
  · exact .unsupported

theorem outline : SchemaOutline.Rel Related schema.outline other.outline := by
  have values := related.additionalSchema?
  have type : other.primaryType? = schema.primaryType? := by cases related; rfl
  have format : other.format = schema.format := by cases related; rfl
  unfold Schema.outline
  generalize schema.additionalSchema? = value? at values
  generalize other.additionalSchema? = moved? at values
  cases values with
  | some here => exact .map here
  | none =>
      dsimp only
      rw [type, format]
      split
      · exact .object related.orderedProperties
      · exact .array related.items
      · exact .unsupported
      · exact .primitive _
      · exact related.impliedOutline

theorem summary?_eq : other.summary? = schema.summary? := by cases related; rfl

theorem enumEntries_eq : other.enumEntries = schema.enumEntries := by cases related; rfl

theorem enumWarning?_eq : other.enumWarning? = schema.enumWarning? := by cases related; rfl

end Rel

end Schema

theorem Redirects.rel {Same : String → String → Prop} {schema other : Schema}
    (redirects : Redirects Same (.inline schema) (.inline other)) :
    Schema.Rel (Redirects Same) schema other := by
  cases redirects with
  | inline slots elements values => exact .intro slots elements values

/-! ## Tallies

A tally does not depend on where references lead to. -/

section Tally

/-- Two slots come to the same, wherever they stand. -/
def SameTally (slot other : SchemaSlot) : Prop :=
  ∀ location, slotTally other location = slotTally slot location

theorem propertyTally_eq {schema other : Schema} {properties others : Entries SchemaSlot}
    (related : Entries.Rel SameTally properties others)
    (inside : ∀ entry ∈ properties, sizeOf entry.2 < sizeOf schema)
    (insideOther : ∀ entry ∈ others, sizeOf entry.2 < sizeOf other) (location : String) :
    propertyTally other others insideOther location =
      propertyTally schema properties inside location := by
  induction related with
  | nil => rw [propertyTally, propertyTally]
  | cons here _ induction => rw [propertyTally, propertyTally, here, induction]

theorem Schema.Rel.shapeTally_eq {schema other : Schema}
    (related : Schema.Rel SameTally schema other)
    (location : String) : shapeTally other location = shapeTally schema location := by
  have outlines := related.outline
  generalize outline : schema.outline = left at outlines
  generalize moved : other.outline = right at outlines
  cases outlines with
  | map here => rw [shapeTally_of_map outline, shapeTally_of_map moved, here]
  | object properties =>
      rw [shapeTally_of_object outline, shapeTally_of_object moved]
      exact propertyTally_eq properties _ _ location
  | array elements =>
      cases elements with
      | none => rw [shapeTally_of_array_none outline, shapeTally_of_array_none moved]
      | some here => rw [shapeTally_of_array outline, shapeTally_of_array moved, here]
  | primitive =>
      rw [shapeTally_of_primitive outline, shapeTally_of_primitive moved, related.enumWarning?_eq]
  | untyped => rw [shapeTally_of_untyped outline, shapeTally_of_untyped moved]
  | unsupported => rw [shapeTally_of_unsupported outline, shapeTally_of_unsupported moved]

theorem Redirects.sameTally {Same : String → String → Prop} {slot other : SchemaSlot}
    (redirects : Redirects Same slot other) : SameTally slot other := by
  apply redirects.induction
  · intro path other _ location
    rw [slotTally, slotTally]
  · intro schema other related location
    rw [slotTally, slotTally, related.shapeTally_eq]

end Tally

/-! ## Translations -/

namespace Document

/-- The component that a reference leads to, with what is said about it. -/
def noted? (document : Document) (path : String) : Option (String × Option String) :=
  (document.designated? path).map fun (name, schema) => (name, schema.summary?)

section Translation

variable {first second : Document}

/-- Two slots are translated to the same type and are described alike. -/
structure SameMeaning (first second : Document) (slot other : SchemaSlot) : Prop where
  type : second.translateSlot other = first.translateSlot slot
  description : second.describe other = first.describe slot

theorem sameMeaning_reference {path other : String}
    (noted : second.noted? other = first.noted? path) :
    first.SameMeaning second (.reference path) (.reference other) := by
  simp only [noted?] at noted
  constructor
  · rw [translateSlot, translateSlot]
    have names := congrArg (Option.map fun note => TypeRef.named note.1) noted
    rwa [Option.map_map, Option.map_map] at names
  · rw [describe, describe]
    have summaries := congrArg (Option.bind · fun note => note.2) noted
    rwa [Option.bind_map, Option.bind_map] at summaries

theorem translateFields_eq {schema other : Schema} {properties others : Entries SchemaSlot}
    (required : other.required = schema.required)
    (related : Entries.Rel (first.SameMeaning second) properties others)
    (inside : ∀ entry ∈ properties, sizeOf entry.2 < sizeOf schema)
    (insideOther : ∀ entry ∈ others, sizeOf entry.2 < sizeOf other) :
    second.translateFields other others insideOther =
      first.translateFields schema properties inside := by
  induction related with
  | nil => rw [translateFields, translateFields]
  | cons here _ induction =>
      rw [translateFields, translateFields, here.type, here.description, induction, required]

theorem translate_eq_of_rel {schema other : Schema}
    (related : Schema.Rel (first.SameMeaning second) schema other) :
    second.translate other = first.translate schema := by
  have outlines := related.outline
  have required : other.required = schema.required := by cases related; rfl
  rw [translate_eq, translate_eq]
  generalize schema.outline = left at outlines
  generalize other.outline = right at outlines
  cases outlines with
  | map here => rw [translateOutline, translateOutline, here.type]
  | object =>
      rw [translateOutline, translateOutline, translateObject, translateObject,
        translateFields_eq required related.orderedProperties]
  | array =>
      have elements := related.items
      rw [translateOutline, translateOutline]
      generalize found : schema.items = items? at elements
      generalize moved : other.items = others? at elements
      cases elements with
      | none => rw [translateArray_of_none _ found, translateArray_of_none _ moved]
      | some here => rw [translateArray_eq _ found, translateArray_eq _ moved, here.type]
  | primitive => rw [translateOutline, translateOutline, related.enumEntries_eq]
  | untyped => rfl
  | unsupported => rfl

/-- Where references mean the same, so do all slots. -/
theorem sameMeaning_of_redirects {Same : String → String → Prop} {slot other : SchemaSlot}
    (same : ∀ {path other}, Same path other → second.noted? other = first.noted? path)
    (redirects : Redirects Same slot other) : first.SameMeaning second slot other := by
  refine redirects.induction (motive := first.SameMeaning second) ?_ ?_
  · intro path other here
    exact sameMeaning_reference (same here)
  · intro schema other related
    constructor
    · rw [translateSlot, translateSlot, translate_eq_of_rel related]
    · exact related.summary?_eq

end Translation

end Document

end ApiGraph
