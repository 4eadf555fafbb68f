import ApiGraph.Proofs.Conversion.Complete
import ApiGraph.Proofs.Conversion.OperationSuccess
import ApiGraph.Proofs.Renaming

namespace ApiGraph

/-! # The translation of operations

Which handler an operation stands for, in terms of the document alone, as with definitions in
`ApiGraph.Proofs.Conversion.Translation`. Operations are converted after all components, so a handler
is what its operation is translated to, and the conversion of an operation counts what the schemas in
its own places come to. -/

/-- A handler that refers to named types by their names. -/
structure NamedHandler where
  name : String
  description : Option String
  path : String
  method : String
  contentType : ContentType
  headerParams : List (TypeField String)
  pathParams : List (TypeField String)
  queryParams : List (TypeField String)
  requestBody : Option (TypeRef String)
  responseBody : Option (TypeRef String)

def Handler.named (handler : Handler) (registry : Registry) : NamedHandler where
  name := handler.name
  description := handler.description
  path := handler.path
  method := handler.method
  contentType := handler.contentType
  headerParams := renameFields registry.nameOf handler.headerParams
  pathParams := renameFields registry.nameOf handler.pathParams
  queryParams := renameFields registry.nameOf handler.queryParams
  requestBody := handler.requestBody.map (·.rename registry.nameOf)
  responseBody := handler.responseBody.map (·.rename registry.nameOf)

/-! ## Translation -/

namespace Document

variable (document : Document)

/-- A parameter without a schema may be anything. -/
def parameterType? (parameter : Parameter) : Option (TypeRef String) :=
  match parameter.schema with
  | some slot => document.translateSlot slot
  | none => some (.inline .unknown)

def translateParameter (parameter : Parameter) : Option (ParameterLocation × TypeField String) :=
  (document.parameterType? parameter).map fun type =>
    (parameter.location, ⟨parameter.name, parameter.description, type, parameter.required⟩)

def translateParameters :
    List Parameter → Option (List (ParameterLocation × TypeField String))
  | [] => some []
  | parameter :: rest =>
      (document.translateParameter parameter).bind fun field =>
        (translateParameters rest).map (field :: ·)

def translateBody : Option SchemaSlot → Option (Option (TypeRef String))
  | none => some none
  | some slot => (document.translateSlot slot).map some

/-- The fields at one location, in the order of the parameters. -/
def namedFieldsAt (location : ParameterLocation)
    (fields : List (ParameterLocation × TypeField String)) : List (TypeField String) :=
  (fields.filter fun (place, _) => place == location).map Prod.snd

def translateParts (entry : OperationEntry) (parts : OperationParts) : Option NamedHandler :=
  (document.translateParameters parts.parameters).bind fun fields =>
    (document.translateBody (parts.request.map Prod.snd)).bind fun requestBody =>
      (document.translateBody parts.response).map fun responseBody => {
        name := entry.handlerName
        description := entry.operation.summary <|> entry.operation.description
        path := entry.path
        method := entry.method.name
        contentType :=
          (parts.request.map fun (mediaType, _) => .ofMediaType mediaType).getD .json
        headerParams := namedFieldsAt .header fields
        pathParams := namedFieldsAt .path fields
        queryParams := namedFieldsAt .query fields
        requestBody := requestBody
        responseBody := responseBody }

def translateOperation (entry : OperationEntry) : Option NamedHandler :=
  match document.operationParts entry with
  | .ok parts => document.translateParts entry parts
  | .error _ => none

theorem translateOperation_eq_some {document : Document} {entry : OperationEntry}
    {handler : NamedHandler} (translated : document.translateOperation entry = some handler) :
    ∃ parts, document.operationParts entry = .ok parts ∧
      document.translateParts entry parts = some handler := by
  rw [translateOperation] at translated
  cases taken : document.operationParts entry with
  | error error =>
      rw [taken] at translated
      cases translated
  | ok parts =>
      rw [taken] at translated
      exact ⟨parts, rfl, translated⟩

/-- An operation with a translation has parts, and they are translated one by one. -/
theorem exists_parts_of_translates {document : Document} {entry : OperationEntry}
    {handler : NamedHandler} (translated : document.translateOperation entry = some handler) :
    ∃ parts fields, document.operationParts entry = .ok parts ∧
      document.translateParameters parts.parameters = some fields ∧
      document.translateBody (parts.request.map Prod.snd) = some handler.requestBody ∧
      document.translateBody parts.response = some handler.responseBody ∧
      handler.headerParams = namedFieldsAt .header fields ∧
      handler.pathParams = namedFieldsAt .path fields ∧
      handler.queryParams = namedFieldsAt .query fields := by
  rcases translateOperation_eq_some translated with ⟨parts, taken, translated⟩
  rcases Option.bind_eq_some_iff.mp translated with ⟨fields, first, rest⟩
  rcases Option.bind_eq_some_iff.mp rest with ⟨requestBody, second, last⟩
  rcases Option.map_eq_some_iff.mp last with ⟨responseBody, third, rfl⟩
  exact ⟨parts, fields, taken, first, second, third, rfl, rfl, rfl⟩

end Document

/-! ## Tally -/

def parameterTally (handler : String) (parameter : Parameter) : Tally :=
  let location := handler ++ ".param(" ++ parameter.name ++ ")"
  match parameter.schema with
  | some slot => slotTally slot location
  | none => { warnings := [.unsupportedSchema location] }

def bodyTally (location : String) : Option SchemaSlot → Tally
  | none => {}
  | some slot => slotTally slot location

def OperationParts.tally (parts : OperationParts) (handler : String) : Tally :=
  .sum (parts.parameters.map (parameterTally handler)) ++
    bodyTally (handler ++ ".request") (parts.request.map Prod.snd) ++
    bodyTally (handler ++ ".response") parts.response ++ { handlers := 1 }

def Document.operationTally (document : Document) (entry : OperationEntry) : Tally :=
  match document.operationParts entry with
  | .ok parts => parts.tally entry.handlerName
  | .error _ => {}

theorem unconfigured_parameterTally (handler : String) (parameter : Parameter) :
    (parameterTally handler parameter).Unconfigured := by
  unfold parameterTally
  cases parameter.schema with
  | some slot => exact unconfigured_slotTally slot _
  | none => exact .single rfl

theorem unconfigured_bodyTally (location : String) (slot? : Option SchemaSlot) :
    (bodyTally location slot?).Unconfigured := by
  cases slot? with
  | none => exact .empty
  | some slot => exact unconfigured_slotTally slot location

theorem Document.unconfigured_operationTally (document : Document) (entry : OperationEntry) :
    (document.operationTally entry).Unconfigured := by
  unfold operationTally
  cases document.operationParts entry with
  | error error => exact .empty
  | ok parts =>
      have parameters : (Tally.sum
          (parts.parameters.map (parameterTally entry.handlerName))).Unconfigured := by
        apply Tally.Unconfigured.sum
        intro tally member
        rcases List.mem_map.mp member with ⟨parameter, _, rfl⟩
        exact unconfigured_parameterTally _ parameter
      refine ((parameters.append (unconfigured_bodyTally _ _)).append
        (unconfigured_bodyTally _ _)).append ?_
      intro warning member
      cases member

/-! ## Actions that leave the registry alone -/

namespace Converting

variable {α β : Type} {registry : Registry} {Means : α → Tally → Prop} {Meaning : β → Tally → Prop}

/-- On success the statistics are the only change. -/
def Performs (registry : Registry) (action : Converting α) (Means : α → Tally → Prop) : Prop :=
  ∀ statistics value, (action.run ⟨registry, statistics⟩).1 = .ok value →
    ∃ tally, (action.run ⟨registry, statistics⟩).2 = ⟨registry, statistics.charge 0 0 tally⟩ ∧
      Means value tally

theorem Performs.pure {value : α} (means : Means value {}) :
    Performs registry (Pure.pure value : Converting α) Means := by
  intro statistics result success
  cases success
  exact ⟨{}, by rw [Statistics.charge_nothing]; rfl, means⟩

theorem Performs.mono {action : Converting α} {Implied : α → Tally → Prop}
    (performs : Performs registry action Means)
    (implied : ∀ value tally, Means value tally → Implied value tally) :
    Performs registry action Implied := by
  intro statistics value success
  rcases performs statistics value success with ⟨tally, state, means⟩
  exact ⟨tally, state, implied value tally means⟩

theorem Performs.bind {action : Converting α} {next : α → Converting β}
    (first : Performs registry action Means)
    (second : ∀ value tally, Means value tally →
      Performs registry (next value) fun result rest => Meaning result (tally ++ rest)) :
    Performs registry (action >>= next) Meaning := by
  intro statistics result success
  rw [run_bind] at success ⊢
  cases outcome : (action.run ⟨registry, statistics⟩).1 with
  | error error =>
      rw [outcome] at success
      cases success
  | ok value =>
      rw [outcome] at success
      rcases first statistics value outcome with ⟨tally, state, means⟩
      simp only [state] at success ⊢
      rcases second value tally means _ result success with ⟨rest, final, meaning⟩
      refine ⟨tally ++ rest, ?_, meaning⟩
      rw [final, Statistics.charge_charge]

theorem Performs.lift {result : Except BuildError α} {next : α → Converting β}
    (second : ∀ value, result = .ok value → Performs registry (next value) Meaning) :
    Performs registry (ConvertingIn.lift result >>= next) Meaning := by
  intro statistics value success
  rw [run_bind] at success ⊢
  cases result with
  | error error => cases success
  | ok found => exact second found rfl statistics value success

theorem Performs.modify {change : Progress → Progress} {own : Tally}
    (changes : ∀ statistics,
      change ⟨registry, statistics⟩ = ⟨registry, statistics.charge 0 0 own⟩) :
    Performs registry (modify change : Converting Unit) fun _ tally => tally = own :=
  fun statistics _ _ => ⟨own, changes statistics, rfl⟩

end Converting

open Converting Registry

section Operation

variable {document : Document} {registry : Registry} (complete : registry.Complete document)

include complete

theorem performs_slot (slot : SchemaSlot) (location : String) :
    Performs registry (document.schemaConversion.slot slot location)
      fun type tally => HoldsSlot document slot registry type ∧ tally = slotTally slot location := by
  intro statistics type success
  rcases @convertSchema_of_complete document ⟨registry, statistics⟩ complete slot location type
    success with ⟨holds, state⟩
  exact ⟨_, state, holds, rfl⟩

theorem performs_parameterType (handler : String) (parameter : Parameter) :
    Performs registry
      (document.schemaConversion.parameterType parameter
        (handler ++ ".param(" ++ parameter.name ++ ")"))
      fun type tally => registry.Registers type.targets ∧
        document.parameterType? parameter = some (type.rename registry.nameOf) ∧
        tally = parameterTally handler parameter := by
  unfold SchemaConversion.parameterType Document.parameterType? parameterTally
  cases parameter.schema with
  | some slot =>
      apply (performs_slot complete slot _).mono
      intro type tally holds
      exact ⟨holds.1.1, holds.1.2, holds.2⟩
  | none =>
      have warns (location : String) : Performs registry
          (modify fun progress => progress.warn (.unsupportedSchema location))
          fun _ tally => tally = { warnings := [.unsupportedSchema location] } := by
        apply Performs.modify
        intro statistics
        simp [Progress.warn, Statistics.warn, Statistics.charge]
      refine (warns _).bind fun _ tally equal => .pure ⟨?_, rfl, ?_⟩
      · intro target member
        simp [TypeRef.targets, Shape.unknown, Shape.targets] at member
      · rw [equal, Tally.append_empty]

theorem performs_parameter (handler : String) (parameter : Parameter) :
    Performs registry (document.schemaConversion.parameter handler parameter) fun field tally =>
      registry.Registers field.2.type.targets ∧
        document.translateParameter parameter =
          some (field.1, field.2.rename registry.nameOf) ∧
        tally = parameterTally handler parameter := by
  unfold SchemaConversion.parameter
  refine (performs_parameterType complete handler parameter).bind fun type tally holds => ?_
  rcases holds with ⟨registered, translated, rfl⟩
  refine .pure ⟨registered, ?_, Tally.append_empty⟩
  rw [Document.translateParameter, translated]
  rfl

/-- The fields of some parameters are known by their translations. -/
def HoldsParameters (document : Document) (parameters : List Parameter) (registry : Registry)
    (fields : List (ParameterLocation × TypeField TypeId)) : Prop :=
  (∀ field ∈ fields, registry.Registers field.2.type.targets) ∧
    document.translateParameters parameters =
      some (fields.map fun field => (field.1, field.2.rename registry.nameOf))

theorem performs_parameters (handler : String) (parameters : List Parameter) :
    Performs registry (parameters.mapM (document.schemaConversion.parameter handler))
      fun fields tally =>
        HoldsParameters document parameters registry fields ∧
          tally = .sum (parameters.map (parameterTally handler)) := by
  induction parameters with
  | nil =>
      rw [List.mapM_nil]
      exact .pure ⟨⟨by simp, rfl⟩, rfl⟩
  | cons parameter rest induction =>
      rw [List.mapM_cons]
      refine (performs_parameter complete handler parameter).bind fun field tally holds => ?_
      rcases holds with ⟨registered, translated, rfl⟩
      refine induction.bind fun fields tally holds => ?_
      rcases holds with ⟨⟨others, translatedRest⟩, rfl⟩
      refine .pure ⟨⟨?_, ?_⟩, ?_⟩
      · exact List.forall_mem_cons.mpr ⟨registered, others⟩
      · rw [Document.translateParameters, translated, Option.bind_some, translatedRest,
          Option.map_some, List.map_cons]
      · rw [Tally.append_empty]
        rfl

theorem performs_body (location : String) (slot? : Option SchemaSlot) :
    Performs registry (document.schemaConversion.body location slot?) fun type? tally =>
      (∀ type ∈ type?, registry.Registers type.targets) ∧
        document.translateBody slot? = some (type?.map (·.rename registry.nameOf)) ∧
        tally = bodyTally location slot? := by
  cases slot? with
  | none => exact .pure ⟨by simp, rfl, rfl⟩
  | some slot =>
      rw [SchemaConversion.body, Document.translateBody, bodyTally]
      refine (performs_slot complete slot location).bind fun type tally holds => ?_
      rcases holds with ⟨⟨registered, translated⟩, rfl⟩
      refine .pure ⟨by simpa using registered, ?_, Tally.append_empty⟩
      rw [translated]
      rfl

end Operation

/-! ## Operations -/

/-- A handler is what its operation is translated to. -/
structure Handler.Translates (handler : Handler) (document : Document) (registry : Registry)
    (entry : OperationEntry) : Prop where
  registered : ∀ type ∈ handler.typeRefs, registry.Registers type.targets
  translated : document.translateOperation entry = some (handler.named registry)

section Operations

variable {document : Document} {registry : Registry}

theorem namedFieldsAt_map (location : ParameterLocation)
    (fields : List (ParameterLocation × TypeField TypeId)) :
    Document.namedFieldsAt location
        (fields.map fun field => (field.1, field.2.rename registry.nameOf)) =
      renameFields registry.nameOf (fieldsAt location fields) := by
  rw [renameFields_eq_map, Document.namedFieldsAt, fieldsAt, List.filter_map, List.map_map,
    List.map_map]
  rfl

theorem registers_fieldsAt {fields : List (ParameterLocation × TypeField TypeId)}
    (registered : ∀ field ∈ fields, registry.Registers field.2.type.targets)
    (location : ParameterLocation) {field : TypeField TypeId}
    (member : field ∈ fieldsAt location fields) : registry.Registers field.type.targets := by
  rcases List.mem_map.mp member with ⟨placed, inside, rfl⟩
  exact registered placed (List.mem_filter.mp inside).1

variable (complete : registry.Complete document)

include complete

theorem performs_convertOperation (entry : OperationEntry) :
    Performs registry (convertOperation document entry) fun handler tally =>
      handler.Translates document registry entry ∧ tally = document.operationTally entry := by
  unfold convertOperation SchemaConversion.operation
  refine .lift fun parameters collected => ?_
  refine (performs_parameters complete _ _).bind fun fields _ heldFields => ?_
  refine .lift fun request requested => ?_
  refine (performs_body complete _ _).bind fun requestBody _ heldRequest => ?_
  refine .lift fun response responded => ?_
  refine (performs_body complete _ _).bind fun responseBody _ heldResponse => ?_
  have counts : Performs registry (modify Progress.countHandler) fun _ tally =>
      tally = { handlers := 1 } := by
    apply Performs.modify
    intro statistics
    simp [Progress.countHandler, Statistics.countHandler, Statistics.charge]
  have parts : document.operationParts entry =
      .ok ⟨parameters.filter (·.location != .cookie), request, response⟩ := by
    rw [Document.operationParts, collected, requested, responded]
    rfl
  rcases heldFields with ⟨⟨fieldsRegistered, fieldsTranslated⟩, rfl⟩
  rcases heldRequest with ⟨requestRegistered, requestTranslated, rfl⟩
  rcases heldResponse with ⟨responseRegistered, responseTranslated, rfl⟩
  refine counts.bind fun _ _ counted => .pure ⟨⟨?_, ?_⟩, ?_⟩
  · intro type member
    simp only [Handler.typeRefs, Handler.params, List.mem_append, List.mem_map,
      Option.mem_toList] at member
    rcases member with (body | body) | ⟨field, (inside | inside) | inside, rfl⟩
    · exact requestRegistered type body
    · exact responseRegistered type body
    all_goals exact registers_fieldsAt fieldsRegistered _ inside
  · simp only [Document.translateOperation, parts, Document.translateParts, fieldsTranslated,
      requestTranslated, responseTranslated, Option.bind_some, Option.map_some, namedFieldsAt_map]
    rfl
  · rw [counted, Tally.append_empty, Document.operationTally, parts]
    simp only [OperationParts.tally, Tally.append_assoc]

end Operations

end ApiGraph
