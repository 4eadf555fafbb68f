import ApiGraph.Proofs.Conversion.Result

namespace ApiGraph

/-! # Inline types

The tally of a definition counts the inline types of its translation, and so the tally of a conversion
counts those of all the shapes and handlers that it makes. The one exception is a parameter without a
schema: its place is filled, and nothing is counted for it. -/

/-- A tally of so many inline types and of no handler. -/
structure Tally.Counts (tally : Tally) (inlineTypes : Nat) : Prop where
  anonymousTypes : tally.anonymousTypes = inlineTypes
  handlers : tally.handlers = 0

namespace Tally.Counts

variable {first second : Tally} {some more : Nat}

theorem warnings (warnings : List Warning) : Counts { warnings := warnings } 0 := ⟨rfl, rfl⟩

theorem append (before : first.Counts some) (after : second.Counts more) :
    (first ++ second).Counts (some + more) :=
  ⟨congrArg₂ (· + ·) before.anonymousTypes after.anonymousTypes,
    congrArg₂ (· + ·) before.handlers after.handlers⟩

theorem sum {α : Type} {tally : α → Tally} {count : α → Nat} {parts : List α}
    (each : ∀ part ∈ parts, (tally part).Counts (count part)) :
    (Tally.sum (parts.map tally)).Counts (parts.map count).sum := by
  induction parts with
  | nil => exact .warnings []
  | cons part rest induction =>
      have split := List.forall_mem_cons.mp each
      exact split.1.append (induction split.2)

end Tally.Counts

/-! ## Definitions -/

section Definitions

variable {document : Document}

mutual

theorem counts_slotTally {slot : SchemaSlot} {type : TypeRef String} (location : String)
    (translated : document.translateSlot slot = some type) :
    (slotTally slot location).Counts type.inlineCount := by
  cases slot with
  | reference path =>
      rw [Document.translateSlot] at translated
      rcases Option.map_eq_some_iff.mp translated with ⟨_, _, rfl⟩
      rw [slotTally, TypeRef.inlineCount]
      exact .warnings []
  | inline schema =>
      rw [Document.translateSlot] at translated
      rcases Option.map_eq_some_iff.mp translated with ⟨shape, inside, rfl⟩
      rw [slotTally, TypeRef.inlineCount]
      exact (counts_shapeTally location inside).append ⟨rfl, rfl⟩
termination_by (sizeOf slot, 0, 0)

theorem counts_shapeTally {schema : Schema} {shape : Shape String} (location : String)
    (translated : document.translate schema = some shape) :
    (shapeTally schema location).Counts shape.inlineCount := by
  rw [Document.translate_eq] at translated
  cases outline : schema.outline with
  | map value =>
      rw [outline] at translated
      rcases Option.map_eq_some_iff.mp translated with ⟨type, inside, rfl⟩
      rw [shapeTally_of_map outline, Shape.inlineCount]
      exact counts_slotTally _ inside
  | object properties =>
      rw [outline, Document.translateOutline, Document.translateObject] at translated
      rcases Option.map_eq_some_iff.mp translated with ⟨fields, inside, rfl⟩
      cases Schema.outline_eq_object outline
      rw [shapeTally_of_object outline, Shape.inlineCount]
      exact counts_propertyTally location inside
  | array items? =>
      rw [outline, Document.translateOutline] at translated
      cases items? with
      | none =>
          rw [document.translateArray_of_none (Schema.outline_eq_array outline).symm] at translated
          cases translated
      | some items =>
          rw [document.translateArray_eq (Schema.outline_eq_array outline).symm] at translated
          rcases Option.map_eq_some_iff.mp translated with ⟨type, inside, rfl⟩
          rw [shapeTally_of_array outline, Shape.inlineCount]
          exact counts_slotTally _ inside
  | primitive primitive =>
      rw [outline] at translated
      cases translated
      rw [shapeTally_of_primitive outline, Shape.inlineCount]
      exact .warnings _
  | untyped =>
      rw [outline] at translated
      cases translated
      rw [shapeTally_of_untyped outline, Shape.unknown, Shape.inlineCount]
      exact .warnings []
  | unsupported =>
      rw [outline] at translated
      cases translated
      rw [shapeTally_of_unsupported outline, Shape.unknown, Shape.inlineCount]
      exact .warnings _
termination_by (sizeOf schema, 1, 0)
decreasing_by
  · exact Prod.Lex.left _ _ (Schema.sizeOf_lt_of_outline_eq_map ‹_›)
  · exact Prod.Lex.right _ (Prod.Lex.left _ _ Nat.zero_lt_one)
  · exact Prod.Lex.left _ _ (Schema.sizeOf_lt_of_outline_eq_array ‹_›)

theorem counts_propertyTally {schema : Schema} {properties : Entries SchemaSlot}
    {inside : ∀ entry ∈ properties, sizeOf entry.2 < sizeOf schema}
    {fields : List (TypeField String)} (location : String)
    (translated : document.translateFields schema properties inside = some fields) :
    (propertyTally schema properties inside location).Counts (fieldInlineCount fields) := by
  match properties with
  | [] =>
      rw [Document.translateFields] at translated
      cases translated
      rw [propertyTally, fieldInlineCount]
      exact .warnings []
  | (name, slot) :: rest =>
      rw [Document.translateFields] at translated
      rcases Option.bind_eq_some_iff.mp translated with ⟨type, here, later⟩
      rcases Option.map_eq_some_iff.mp later with ⟨others, there, rfl⟩
      rw [propertyTally, fieldInlineCount]
      exact (counts_slotTally _ here).append (counts_propertyTally location there)
termination_by (sizeOf schema, 0, properties.length)
decreasing_by
  · exact Prod.Lex.left _ _ (inside (name, slot) (.head _))
  · exact Prod.Lex.right _ (Prod.Lex.right _ (Nat.lt_succ_self _))

end

/-- The inline types inside the named types of a registry. -/
def Registry.inlineTypes (registry : Registry) : Nat :=
  (registry.nodes.map fun node => node.shape.inlineCount).sum

theorem Registry.Complete.counts_componentTally {registry : Registry}
    (complete : registry.Complete document) :
    (document.componentTally registry.names).Counts registry.inlineTypes := by
  rw [Document.componentTally, Registry.names, List.map_map]
  apply Tally.Counts.sum
  intro node member
  rcases List.mem_iff_getElem?.mp member with ⟨id, found⟩
  rcases complete.faithful.made found (complete.settled ▸ List.not_mem_nil) with
    ⟨schema, translates⟩
  have counts := counts_shapeTally node.name translates.translated
  rw [Shape.inlineCount_rename] at counts
  rw [Function.comp_apply, Document.definitionTally, translates.declared]
  exact counts

end Definitions

/-! ## Operations -/

/-- The inline types in the places of a handler. -/
def Handler.inlineTypes (handler : Handler) : Nat :=
  (handler.typeRefs.map TypeRef.inlineCount).sum

/-- The parameters of an operation whose places in its handler are filled without a schema. -/
def Document.untypedParameters (document : Document) (entry : OperationEntry) : List Parameter :=
  match document.operationParts entry with
  | .ok parts => parts.parameters.filter fun parameter => parameter.schema.isNone
  | .error _ => []

theorem fieldInlineCount_eq_sum {ρ : Type} (fields : List (TypeField ρ)) :
    fieldInlineCount fields = (fields.map fun field => field.type.inlineCount).sum := by
  induction fields with
  | nil => rw [fieldInlineCount, List.map_nil, List.sum_nil]
  | cons field rest induction =>
      rcases field with ⟨name, description, type, required⟩
      rw [fieldInlineCount, List.map_cons, List.sum_cons, induction]

theorem fieldInlineCount_append {ρ : Type} (fields others : List (TypeField ρ)) :
    fieldInlineCount (fields ++ others) = fieldInlineCount fields + fieldInlineCount others := by
  simp only [fieldInlineCount_eq_sum, List.map_append, List.sum_append]

/-- The inline types of a handler do not depend on how it refers to named types. -/
theorem Handler.inlineTypes_named (handler : Handler) {registry : Registry} :
    handler.inlineTypes =
      ((handler.named registry).requestBody.elim 0 TypeRef.inlineCount +
        (handler.named registry).responseBody.elim 0 TypeRef.inlineCount) +
          fieldInlineCount ((handler.named registry).headerParams ++
            (handler.named registry).pathParams ++ (handler.named registry).queryParams) := by
  have body (type? : Option (TypeRef TypeId)) : (type?.toList.map TypeRef.inlineCount).sum =
      (type?.map (·.rename registry.nameOf)).elim 0 TypeRef.inlineCount := by
    cases type? <;> simp
  have fields (fields : List (TypeField TypeId)) : ((fields.map Field.type).map
      TypeRef.inlineCount).sum = fieldInlineCount (renameFields registry.nameOf fields) := by
    rw [fieldInlineCount_rename, fieldInlineCount_eq_sum, List.map_map]
    rfl
  simp only [inlineTypes, typeRefs, params, named, List.map_append, List.sum_append, body, fields,
    fieldInlineCount_append]

section Operations

variable {document : Document}

theorem counts_bodyTally {slot? : Option SchemaSlot} {type? : Option (TypeRef String)}
    (location : String) (translated : document.translateBody slot? = some type?) :
    (bodyTally location slot?).Counts (type?.elim 0 TypeRef.inlineCount) := by
  cases slot? with
  | none =>
      cases translated
      exact .warnings []
  | some slot =>
      rcases Option.map_eq_some_iff.mp translated with ⟨type, inside, rfl⟩
      exact counts_slotTally location inside

/-- All inline types of parameters are counted but those that stand for a schema that is not
there. -/
theorem counts_parameterTally (handler : String) {parameters : List Parameter}
    {fields : List (ParameterLocation × TypeField String)}
    (translated : document.translateParameters parameters = some fields) :
    ∃ counted,
      (Tally.sum (parameters.map (parameterTally handler))).Counts counted ∧
      counted + (parameters.filter fun parameter => parameter.schema.isNone).length =
        (fields.map fun field => field.2.type.inlineCount).sum := by
  induction parameters generalizing fields with
  | nil =>
      cases translated
      exact ⟨0, .warnings [], rfl⟩
  | cons parameter rest induction =>
      rw [Document.translateParameters] at translated
      rcases Option.bind_eq_some_iff.mp translated with ⟨field, here, later⟩
      rcases Option.map_eq_some_iff.mp later with ⟨others, there, rfl⟩
      rcases induction there with ⟨counted, counts, total⟩
      rcases Option.map_eq_some_iff.mp here with ⟨type, typed, rfl⟩
      rw [Document.parameterType?] at typed
      rw [List.map_cons, Tally.sum, List.map_cons, List.sum_cons, ← total, parameterTally]
      cases schema : parameter.schema with
      | none =>
          -- An inline type fills the place, and all that is told of it is a warning.
          rw [schema] at typed
          cases typed
          refine ⟨0 + counted, (Tally.Counts.warnings _).append counts, ?_⟩
          rw [List.filter_cons_of_pos (by rw [schema, Option.isNone_none]), List.length_cons,
            TypeRef.inlineCount, Shape.unknown, Shape.inlineCount]
          omega
      | some slot =>
          rw [schema] at typed
          refine ⟨_, (counts_slotTally _ typed).append counts, ?_⟩
          rw [List.filter_cons_of_neg (by simp [schema]), Nat.add_assoc]

/-- Parameters that are not cookies stand at one of three places. -/
theorem fieldInlineCount_namedFieldsAt {parameters : List Parameter}
    {fields : List (ParameterLocation × TypeField String)}
    (translated : document.translateParameters parameters = some fields)
    (placed : ∀ parameter ∈ parameters, parameter.location ≠ .cookie) :
    fieldInlineCount (Document.namedFieldsAt .header fields ++
        Document.namedFieldsAt .path fields ++ Document.namedFieldsAt .query fields) =
      (fields.map fun field => field.2.type.inlineCount).sum := by
  induction parameters generalizing fields with
  | nil =>
      cases translated
      rfl
  | cons parameter rest induction =>
      rw [Document.translateParameters] at translated
      rcases Option.bind_eq_some_iff.mp translated with ⟨field, here, later⟩
      rcases Option.map_eq_some_iff.mp later with ⟨others, there, rfl⟩
      rcases Option.map_eq_some_iff.mp here with ⟨type, _, rfl⟩
      have parts := List.forall_mem_cons.mp placed
      have others := induction there parts.2
      rw [fieldInlineCount_append, fieldInlineCount_append] at others ⊢
      rw [List.map_cons, List.sum_cons, ← others]
      simp only [Document.namedFieldsAt, List.filter_cons, fieldInlineCount_eq_sum]
      cases location : parameter.location with
      | cookie => exact absurd location parts.1
      | header => simp; omega
      | path => simp; omega
      | query => simp; omega

/-- An operation counts as one handler, and the inline types of its handler but for those that stand
for the schema of a parameter that has none. -/
theorem Handler.Translates.tally {registry : Registry} {handler : Handler}
    {entry : OperationEntry} (translates : handler.Translates document registry entry) :
    (document.operationTally entry).handlers = 1 ∧
      (document.operationTally entry).anonymousTypes +
        (document.untypedParameters entry).length = handler.inlineTypes := by
  rcases Document.exists_parts_of_translates translates.translated with
    ⟨parts, fields, taken, first, second, third, header, path, query⟩
  rcases Document.operationParts_eq_ok_iff.mp taken with ⟨parameters, _, _, _, kept⟩
  have placed : ∀ parameter ∈ parts.parameters, parameter.location ≠ .cookie := by
    intro parameter member
    rw [kept] at member
    simpa using (List.mem_filter.mp member).2
  rcases counts_parameterTally entry.handlerName first with ⟨counted, counts, total⟩
  have whole := (counts.append (counts_bodyTally (entry.handlerName ++ ".request") second)).append
    (counts_bodyTally (entry.handlerName ++ ".response") third)
  have params := fieldInlineCount_namedFieldsAt first placed
  rw [← header, ← path, ← query, ← total] at params
  rw [Document.operationTally, Document.untypedParameters, taken, handler.inlineTypes_named]
  refine ⟨congrArg (· + 1) whole.handlers, ?_⟩
  have own : (parts.tally entry.handlerName).anonymousTypes = _ + 0 :=
    congrArg (· + 0) whole.anonymousTypes
  dsimp only
  rw [params, own]
  omega

/-- What operations come to is what can be counted in their handlers. -/
theorem Handles.tally {registry : Registry} {entries : List OperationEntry} {handled : Handled}
    (handles : Handles document registry entries handled) :
    (Tally.sum (entries.map document.operationTally)).handlers = entries.length ∧
      (Tally.sum (entries.map document.operationTally)).anonymousTypes +
          (entries.flatMap document.untypedParameters).length =
        ((handled.map Prod.snd).map Handler.inlineTypes).sum := by
  rcases handles with ⟨rfl, translates⟩
  induction handled with
  | nil => exact ⟨rfl, rfl⟩
  | cons pair rest induction =>
      have split := List.forall_mem_cons.mp translates
      rcases split.1.tally with ⟨handler, inlineTypes⟩
      rcases induction split.2 with ⟨handlers, others⟩
      simp only [List.map_cons, Tally.sum, Tally.handlers_append, Tally.anonymousTypes_append,
        List.flatMap_cons, List.length_append, List.length_cons, List.sum_cons, handler, handlers,
        ← inlineTypes, ← others]
      omega

end Operations

end ApiGraph
