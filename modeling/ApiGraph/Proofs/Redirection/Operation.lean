import ApiGraph.Proofs.Redirection.Schema
import Mathlib

namespace ApiGraph

/-! # Operations with other references

What holds of slots that are the same but for their references is carried through parameters, bodies
and responses to the operations that use them. -/

/-! ## Related components -/

/-- References that are the same, or related definitions. -/
inductive Referable.Rel {α β : Type} (Related : α → β → Prop) : Referable α → Referable β → Prop
    where
  | reference (path : String) : Rel Related (.reference path) (.reference path)
  | inline {value : α} {other : β} (related : Related value other) :
      Rel Related (.inline value) (.inline other)

namespace Referable

variable {α : Type} {Related : α → α → Prop} {components others : Entries (Referable α)}
  {target? : String → Option String}

variable (Related components others) in
/-- The same names are declared, as the same references or as related definitions. -/
def Agree : Prop :=
  ∀ name, Option.Rel (Rel Related) (Entries.value? components name) (Entries.value? others name)

theorem Agree.flip (agree : Agree Related components others) :
    Agree (fun value other => Related other value) others components := by
  intro name
  have here := agree name
  generalize Entries.value? components name = item? at here
  generalize Entries.value? others name = other? at here
  cases here with
  | none => exact .none
  | some related =>
      cases related with
      | reference path => exact .some (.reference path)
      | inline related => exact .some (.inline related)

theorem Agree.declared (agree : Agree Related components others) {name : String}
    {item : Referable α} (declared : Entries.value? components name = some item) :
    ∃ other, Entries.value? others name = some other ∧ Rel Related item other := by
  have here := agree name
  rw [declared] at here
  generalize Entries.value? others name = other? at here
  cases here with
  | some related => exact ⟨_, rfl, related⟩

theorem Agree.reference (agree : Agree Related components others) {name path : String}
    (declared : Entries.value? components name = some (.reference path)) :
    Entries.value? others name = some (.reference path) := by
  rcases agree.declared declared with ⟨other, also, related⟩
  cases related with
  | reference => exact also

theorem Agree.inline (agree : Agree Related components others) {name : String} {value : α}
    (declared : Entries.value? components name = some (.inline value)) :
    ∃ other, Entries.value? others name = some (.inline other) ∧ Related value other := by
  rcases agree.declared declared with ⟨other, also, related⟩
  cases related with
  | inline related => exact ⟨_, also, related⟩

/-- Chains end at related definitions. -/
theorem Agree.leadsTo (agree : Agree Related components others) {first last : String} {value : α}
    (leads : LeadsTo components target? first last value) :
    ∃ other, LeadsTo others target? first last other ∧ Related value other := by
  induction leads with
  | here declared =>
      rcases agree.inline declared with ⟨other, also, related⟩
      exact ⟨other, .here also, related⟩
  | onward declared target _ induction =>
      rcases induction with ⟨other, leads, related⟩
      exact ⟨other, .onward (agree.reference declared) target leads, related⟩

theorem Agree.follow (agree : Agree Related components others)
    (target? : String → Option String) (name : String) :
    Option.Rel (fun found other => other.1 = found.1 ∧ Related found.2 other.2)
      (follow components target? name) (follow others target? name) := by
  cases found : Referable.follow components target? name with
  | some ending =>
      rcases agree.leadsTo (follow_eq_some_iff.mp found) with ⟨other, leads, related⟩
      rw [follow_eq_some_iff.mpr leads]
      exact .some ⟨rfl, related⟩
  | none =>
      cases held : Referable.follow others target? name with
      | none => exact .none
      | some ending =>
          rcases agree.flip.leadsTo (follow_eq_some_iff.mp held) with ⟨other, leads, _⟩
          rw [follow_eq_some_iff.mpr leads] at found
          cases found

theorem Agree.resolves (agree : Agree Related components others) {item moved : Referable α}
    {value : α} (items : Rel Related item moved) (resolves : Resolves components target? item value) :
    ∃ other, Resolves others target? moved other ∧ Related value other := by
  cases items with
  | inline related =>
      cases resolves with
      | inline => exact ⟨_, .inline _, related⟩
  | reference path =>
      cases resolves with
      | reference target leads =>
          rcases agree.leadsTo leads with ⟨other, leads, related⟩
          exact ⟨other, .reference target leads, related⟩

end Referable

/-- What is noted of a reference only depends on what is said of the definitions. -/
theorem Document.noted?_eq_of_agree {first second : Document} {Related : Schema → Schema → Prop}
    (agree : Referable.Agree Related first.components.schemas second.components.schemas)
    (summaries : ∀ {schema other}, Related schema other → other.summary? = schema.summary?)
    (path : String) : second.noted? path = first.noted? path := by
  simp only [noted?, designated?]
  cases Pointer.schema? path with
  | none => rfl
  | some name =>
      have found := agree.follow Pointer.schema? name
      simp only [Option.bind_some]
      generalize Referable.follow first.components.schemas Pointer.schema? name = ending? at found
      generalize Referable.follow second.components.schemas Pointer.schema? name = other? at found
      cases found with
      | none => rfl
      | some here =>
          rcases here with ⟨names, related⟩
          rw [Option.map_some, Option.map_some, names, summaries related]

/-! ## Related operations -/

section Operations

variable (Related : SchemaSlot → SchemaSlot → Prop)

inductive Parameter.Rel : Parameter → Parameter → Prop where
  | intro {parameter : Parameter} {schema : Option SchemaSlot}
      (slots : Option.Rel Related parameter.schema schema) :
      Rel parameter { parameter with schema := schema }

abbrev BodyContent.Rel : BodyContent → BodyContent → Prop := Entries.Rel (Option.Rel Related)

inductive RequestBody.Rel : RequestBody → RequestBody → Prop where
  | intro {body : RequestBody} {content : BodyContent}
      (contents : BodyContent.Rel Related body.content content) :
      Rel body { body with content := content }

inductive Response.Rel : Response → Response → Prop where
  | intro {response : Response} {content : BodyContent}
      (contents : BodyContent.Rel Related response.content content) :
      Rel response { response with content := content }

inductive Operation.Rel : Operation → Operation → Prop where
  | intro {operation : Operation} {parameters : List (Referable Parameter)}
      {requestBody : Option (Referable RequestBody)} {responses : Entries (Referable Response)}
      (fields : List.Forall₂ (Referable.Rel (Parameter.Rel Related)) operation.parameters
        parameters)
      (request : Option.Rel (Referable.Rel (RequestBody.Rel Related)) operation.requestBody
        requestBody)
      (answers : Entries.Rel (Referable.Rel (Response.Rel Related)) operation.responses
        responses) :
      Rel operation { operation with
        parameters := parameters, requestBody := requestBody, responses := responses }

structure PathItem.Rel (item other : PathItem) : Prop where
  parameters : List.Forall₂ (Referable.Rel (Parameter.Rel Related)) item.parameters
    other.parameters
  operations : ∀ method,
    Option.Rel (Operation.Rel Related) (item.operation? method) (other.operation? method)

structure OperationEntry.Rel (entry other : OperationEntry) : Prop where
  path : other.path = entry.path
  method : other.method = entry.method
  pathItem : PathItem.Rel Related entry.pathItem other.pathItem
  operation : Operation.Rel Related entry.operation other.operation

/-- What operations use is the same but for related slots. -/
structure OperationParts.Rel (parts others : OperationParts) : Prop where
  parameters : List.Forall₂ (Parameter.Rel Related) parts.parameters others.parameters
  media : others.request.map Prod.fst = parts.request.map Prod.fst
  request : Option.Rel Related (parts.request.map Prod.snd) (others.request.map Prod.snd)
  response : Option.Rel Related parts.response others.response

end Operations

section Parts

variable {Related : SchemaSlot → SchemaSlot → Prop}

theorem PathItem.Rel.entries {item other : PathItem} (related : PathItem.Rel Related item other)
    (path : String) :
    List.Forall₂ (OperationEntry.Rel Related) (item.operations path) (other.operations path) := by
  refine List.rel_filterMap (R := Eq) ?_ (List.forall₂_same.mpr fun _ _ => rfl)
  intro method _ same
  subst same
  dsimp only
  have here := related.operations method
  generalize item.operation? method = operation? at here
  generalize other.operation? method = other? at here
  cases here with
  | none => exact .none
  | some operations => exact .some ⟨rfl, rfl, related, operations⟩

namespace Parameter.Rel

variable {parameter other : Parameter} (related : Parameter.Rel Related parameter other)

include related

theorem name_eq : other.name = parameter.name := by cases related; rfl

theorem location_eq : other.location = parameter.location := by cases related; rfl

theorem schema : Option.Rel Related parameter.schema other.schema := by
  cases related with
  | intro slots => exact slots

theorem override {parameters others : List Parameter}
    (rest : List.Forall₂ (Parameter.Rel Related) parameters others) :
    List.Forall₂ (Parameter.Rel Related) (overrideParameter parameters parameter)
      (overrideParameter others other) := by
  induction rest with
  | nil => exact .cons related .nil
  | cons here more induction =>
      rw [overrideParameter, overrideParameter, here.name_eq, here.location_eq, related.name_eq,
        related.location_eq]
      split
      · exact .cons related more
      · exact .cons here induction

end Parameter.Rel

theorem BodyContent.Rel.firstSchema? {content other : BodyContent}
    (related : BodyContent.Rel Related content other) :
    (firstSchema? other).map Prod.fst = (firstSchema? content).map Prod.fst ∧
      Option.Rel Related ((firstSchema? content).map Prod.snd)
        ((firstSchema? other).map Prod.snd) := by
  induction related with
  | nil => exact ⟨rfl, .none⟩
  | cons here _ induction =>
      rw [ApiGraph.firstSchema?, ApiGraph.firstSchema?] at induction ⊢
      rw [List.findSome?_cons, List.findSome?_cons]
      cases here with
      | none => exact induction
      | some here => exact ⟨rfl, .some here⟩

theorem Entries.Rel.find? {α : Type} {Related : α → α → Prop} {entries others : Entries α}
    (related : Entries.Rel Related entries others) (keep : String → Bool) :
    Option.Rel Related ((entries.find? fun (name, _) => keep name).map Prod.snd)
      ((others.find? fun (name, _) => keep name).map Prod.snd) := by
  induction related with
  | nil => exact .none
  | @cons name _ _ _ _ here _ induction =>
      cases kept : keep name with
      | true => simpa only [List.find?_cons, kept, Option.map_some] using Option.Rel.some here
      | false => simpa only [List.find?_cons, kept] using induction

theorem RequestBody.Rel.content {body other : RequestBody}
    (related : RequestBody.Rel Related body other) :
    BodyContent.Rel Related body.content other.content := by
  cases related with
  | intro contents => exact contents

theorem Response.Rel.content {response other : Response}
    (related : Response.Rel Related response other) :
    BodyContent.Rel Related response.content other.content := by
  cases related with
  | intro contents => exact contents

namespace Operation.Rel

variable {operation other : Operation} (related : Operation.Rel Related operation other)

include related

theorem parameters :
    List.Forall₂ (Referable.Rel (Parameter.Rel Related)) operation.parameters
      other.parameters := by
  cases related with
  | intro fields _ _ => exact fields

theorem requestBody :
    Option.Rel (Referable.Rel (RequestBody.Rel Related)) operation.requestBody
      other.requestBody := by
  cases related with
  | intro _ request _ => exact request

theorem responses :
    Entries.Rel (Referable.Rel (Response.Rel Related)) operation.responses other.responses := by
  cases related with
  | intro _ _ answers => exact answers

theorem successResponse? :
    Option.Rel (Referable.Rel (Response.Rel Related)) (successResponse? operation)
      (successResponse? other) := by
  have usual := related.responses.value? successStatus
  unfold ApiGraph.successResponse?
  generalize Entries.value? operation.responses successStatus = response? at usual
  generalize Entries.value? other.responses successStatus = other? at usual
  cases usual with
  | some here => exact .some here
  | none => exact related.responses.find? isSuccess

end Operation.Rel

namespace OperationEntry.Rel

variable {entry other : OperationEntry} (related : OperationEntry.Rel Related entry other)

include related

/-- What is said about an operation apart from what it uses. -/
theorem operation_eq :
    other.operation.id = entry.operation.id ∧ other.operation.tags = entry.operation.tags ∧
      other.operation.summary = entry.operation.summary ∧
      other.operation.description = entry.operation.description := by
  have operation := related.operation
  generalize entry.operation = first at operation
  generalize other.operation = second at operation
  cases operation
  exact ⟨rfl, rfl, rfl, rfl⟩

theorem handlerName_eq : other.handlerName = entry.handlerName := by
  rw [handlerName, handlerName, related.operation_eq.1, related.path, related.method]

end OperationEntry.Rel

end Parts

/-! ## What is related to itself -/

section Reflexive

variable {Related : SchemaSlot → SchemaSlot → Prop} (each : ∀ slot, Related slot slot)

theorem Referable.Rel.refl {α : Type} {Related : α → α → Prop}
    (each : ∀ value, Related value value) (item : Referable α) :
    Referable.Rel Related item item := by
  cases item with
  | reference path => exact .reference path
  | inline value => exact .inline (each value)

include each

theorem Parameter.Rel.refl (parameter : Parameter) : Parameter.Rel Related parameter parameter := by
  cases parameter
  exact .intro (rel_refl each _)

theorem BodyContent.Rel.refl (content : BodyContent) : BodyContent.Rel Related content content :=
  Entries.Rel.refl fun entry _ => rel_refl each entry.2

theorem RequestBody.Rel.refl (body : RequestBody) : RequestBody.Rel Related body body := by
  cases body
  exact .intro (BodyContent.Rel.refl each _)

theorem Response.Rel.refl (response : Response) : Response.Rel Related response response := by
  cases response
  exact .intro (BodyContent.Rel.refl each _)

theorem Operation.Rel.refl (operation : Operation) : Operation.Rel Related operation operation := by
  have fields := List.forall₂_same.mpr fun parameter (_ : parameter ∈ operation.parameters) =>
    Referable.Rel.refl (Parameter.Rel.refl each) parameter
  have request := rel_refl (Referable.Rel.refl (RequestBody.Rel.refl each)) operation.requestBody
  have answers := Entries.Rel.refl fun entry (_ : entry ∈ operation.responses) =>
    Referable.Rel.refl (Response.Rel.refl each) entry.2
  cases operation
  exact .intro fields request answers

theorem PathItem.Rel.refl (item : PathItem) : PathItem.Rel Related item item where
  parameters := List.forall₂_same.mpr fun parameter _ =>
    Referable.Rel.refl (Parameter.Rel.refl each) parameter
  operations method := rel_refl (Operation.Rel.refl each) (item.operation? method)

theorem OperationEntry.Rel.refl (entry : OperationEntry) : OperationEntry.Rel Related entry entry :=
  ⟨rfl, rfl, .refl each entry.pathItem, .refl each entry.operation⟩

end Reflexive

/-! ## Translations and tallies -/

section Meaning

variable {first second : Document} {Related : SchemaSlot → SchemaSlot → Prop}
  {parameters others : List Parameter} {slot? other? : Option SchemaSlot}

theorem Document.translateParameters_eq
    (same : ∀ {slot other}, Related slot other →
      second.translateSlot other = first.translateSlot slot)
    (related : List.Forall₂ (Parameter.Rel Related) parameters others) :
    second.translateParameters others = first.translateParameters parameters := by
  induction related with
  | nil => rfl
  | @cons parameter other _ _ here _ induction =>
      have type : second.parameterType? other = first.parameterType? parameter := by
        have slots := here.schema
        rw [parameterType?, parameterType?]
        generalize parameter.schema = slot? at slots ⊢
        generalize other.schema = other? at slots ⊢
        cases slots with
        | none => rfl
        | some slot => exact same slot
      have field : second.translateParameter other = first.translateParameter parameter := by
        rw [translateParameter, translateParameter, type]
        cases here
        rfl
      rw [translateParameters, translateParameters, field, induction]

theorem Document.translateBody_eq
    (same : ∀ {slot other}, Related slot other →
      second.translateSlot other = first.translateSlot slot)
    (related : Option.Rel Related slot? other?) :
    second.translateBody other? = first.translateBody slot? := by
  cases related with
  | none => rfl
  | some here => rw [translateBody, translateBody, same here]

theorem parameterTally_eq (same : ∀ {slot other}, Related slot other → SameTally slot other)
    (handler : String) (related : List.Forall₂ (Parameter.Rel Related) parameters others) :
    others.map (parameterTally handler) = parameters.map (parameterTally handler) := by
  induction related with
  | nil => rfl
  | @cons parameter other _ _ here _ induction =>
      have tally : parameterTally handler other = parameterTally handler parameter := by
        have slots := here.schema
        rw [parameterTally, parameterTally, here.name_eq]
        generalize parameter.schema = slot? at slots ⊢
        generalize other.schema = other? at slots ⊢
        cases slots with
        | none => rfl
        | some slot => exact same slot _
      rw [List.map_cons, List.map_cons, tally, induction]

theorem bodyTally_eq (same : ∀ {slot other}, Related slot other → SameTally slot other)
    (location : String) (related : Option.Rel Related slot? other?) :
    bodyTally location other? = bodyTally location slot? := by
  cases related with
  | none => rfl
  | some here => rw [bodyTally, bodyTally, same here]

theorem Document.translateParts_eq
    (same : ∀ {slot other}, Related slot other →
      second.translateSlot other = first.translateSlot slot)
    {entry other : OperationEntry} (entries : OperationEntry.Rel Related entry other)
    {parts moved : OperationParts} (related : OperationParts.Rel Related parts moved) :
    second.translateParts other moved = first.translateParts entry parts := by
  rcases entries.operation_eq with ⟨_, _, summary, description⟩
  have contentType : moved.request.map (ContentType.ofMediaType ·.1) =
      parts.request.map (ContentType.ofMediaType ·.1) := by
    have types := congrArg (Option.map ContentType.ofMediaType) related.media
    rwa [Option.map_map, Option.map_map] at types
  simp only [translateParts, translateParameters_eq same related.parameters,
    translateBody_eq same related.request, translateBody_eq same related.response, contentType,
    entries.handlerName_eq, entries.path, entries.method, summary, description]

theorem OperationParts.Rel.tally_eq
    (same : ∀ {slot other}, Related slot other → SameTally slot other)
    {parts moved : OperationParts} (related : OperationParts.Rel Related parts moved)
    (handler : String) : moved.tally handler = parts.tally handler := by
  rw [tally, tally, parameterTally_eq same handler related.parameters,
    bodyTally_eq same _ related.request, bodyTally_eq same _ related.response]

end Meaning

end ApiGraph
