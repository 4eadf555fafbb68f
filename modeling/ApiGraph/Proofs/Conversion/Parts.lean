import ApiGraph.Proofs.Chain
import ApiGraph.Proofs.Merging
import ApiGraph.Proofs.Related

namespace ApiGraph

/-! # What an operation takes from its document

An operation takes parameters, the schema of its request body and that of its response to a request
that succeeds. Parameters, bodies and responses may be references into their own sections of the
components; what they lead to is bounded by the size of the section and is what the chain of
references ends at. Which of several responses and which of several media types is taken is said here
of the document, and the converter is shown to take the same. -/

/-! ## Reusable definitions -/

section Reusable

variable {α : Type} {area : String} {components : Entries (Referable α)} {handler : String}
  {value : α}

theorem resolveWithin_eq_ok_iff {steps : Nat} {name : String} {item : Referable α}
    (declared : Entries.value? components name = some item) :
    resolveWithin area components handler steps item = .ok value ↔
      ∃ last, Referable.followWithin components (Pointer.component? · area) steps name =
        some (last, value) := by
  induction steps generalizing name item with
  | zero => simp [resolveWithin, Referable.followWithin]
  | succ steps induction =>
      cases item with
      | inline found => simp [resolveWithin, Referable.followWithin, declared]
      | reference path =>
          simp only [resolveWithin, Referable.followWithin, declared]
          cases Pointer.component? path area with
          | none => simp
          | some next =>
              simp only [Option.bind_some]
              cases found : Entries.value? components next with
              | none => simp [Referable.followWithin_of_undeclared found]
              | some item => exact induction found

/-- The definition that an item resolves to is the one that its chain of references ends at. -/
theorem resolveComponent_eq_ok_iff {item : Referable α} :
    resolveComponent area components handler item = .ok value ↔
      Referable.Resolves components (Pointer.component? · area) item value := by
  cases item with
  | inline found =>
      simp only [resolveComponent, resolveWithin, Except.ok.injEq]
      constructor
      · intro equal
        rw [equal]
        exact .inline value
      · intro resolves
        cases resolves
        rfl
  | reference path =>
      simp only [resolveComponent, resolveWithin]
      constructor
      · intro success
        split at success
        next item found =>
          rcases Option.bind_eq_some_iff.mp found with ⟨name, target, declared⟩
          rcases (resolveWithin_eq_ok_iff declared).mp success with ⟨last, followed⟩
          exact .reference target (Referable.follow_eq_some_iff.mp followed)
        next => cases success
      · intro resolves
        cases resolves with
        | @reference _ name last _ target leads =>
            have followed := Referable.follow_eq_some_iff.mpr leads
            have declared : ∃ item, Entries.value? components name = some item := by
              cases leads with
              | here declared => exact ⟨_, declared⟩
              | onward declared => exact ⟨_, declared⟩
            rcases declared with ⟨item, declared⟩
            simp only [target, Option.bind_some, declared]
            exact (resolveWithin_eq_ok_iff declared).mpr ⟨last, followed⟩

/-- A check whether there is a result is enough to have one. -/
theorem exists_eq_ok_of_toBool {ε : Type} {result : Except ε α} (success : result.toBool = true) :
    ∃ value, result = .ok value := by
  cases result with
  | error error => cases success
  | ok value => exact ⟨value, rfl⟩

theorem bind_eq_ok_iff {β ε : Type} {first : Except ε α} {next : α → Except ε β} {result : β} :
    (first >>= next) = .ok result ↔ ∃ value, first = .ok value ∧ next value = .ok result := by
  cases first with
  | error error =>
      constructor
      · intro success
        cases success
      · intro holds
        rcases holds with ⟨value, success, _⟩
        cases success
  | ok value =>
      constructor
      · intro success
        exact ⟨value, rfl, success⟩
      · intro holds
        rcases holds with ⟨other, same, success⟩
        cases same
        exact success

theorem mapM_eq_ok_iff {β ε : Type} {convert : α → Except ε β} {items : List α}
    {results : List β} :
    items.mapM convert = .ok results ↔
      List.Forall₂ (fun item result => convert item = .ok result) items results := by
  induction items generalizing results with
  | nil =>
      rw [List.mapM_nil, List.forall₂_nil_left_iff]
      exact ⟨fun equal => (Except.ok.inj equal).symm, fun equal => by rw [equal]; rfl⟩
  | cons item items induction =>
      simp only [List.mapM_cons, List.forall₂_cons_left_iff, bind_eq_ok_iff, induction]
      constructor
      · intro holds
        rcases holds with ⟨first, here, others, there, equal⟩
        exact ⟨first, others, here, there, (Except.ok.inj equal).symm⟩
      · intro holds
        rcases holds with ⟨first, others, here, there, equal⟩
        exact ⟨first, here, others, there, by rw [equal]; rfl⟩

end Reusable

/-! ## The response and the schema that are taken -/

/-- The first entry whose name has a property, if there is one. -/
inductive Entries.First {α : Type} (Holds : String → Prop) : Entries α → Option α → Prop where
  | nothing : First Holds [] none
  | here {name : String} {item : α} {rest : Entries α} (holds : Holds name) :
      First Holds ((name, item) :: rest) (some item)
  | later {name : String} {item : α} {rest : Entries α} {found : Option α} (fails : ¬Holds name)
      (first : First Holds rest found) : First Holds ((name, item) :: rest) found

/-- The response to a request that succeeds: that of the status 200, or else the first one whose
status starts with a 2. -/
inductive Operation.Answers (operation : Operation) : Option (Referable Response) → Prop where
  | usual {response : Referable Response}
      (listed : Entries.First (· = "200") operation.responses (some response)) :
      operation.Answers (some response)
  | other {response? : Option (Referable Response)}
      (missing : Entries.First (· = "200") operation.responses none)
      (first : Entries.First (['2'] <+: ·.toList) operation.responses response?) :
      operation.Answers response?

/-- The first media type of a body that has a schema, with this schema. -/
inductive BodyContent.Offers : BodyContent → Option (String × SchemaSlot) → Prop where
  | nothing : Offers [] none
  | schema {mediaType : String} {slot : SchemaSlot} {rest : BodyContent} :
      Offers ((mediaType, some slot) :: rest) (some (mediaType, slot))
  | later {mediaType : String} {rest : BodyContent} {offered : Option (String × SchemaSlot)}
      (offers : Offers rest offered) : Offers ((mediaType, none) :: rest) offered

section Choices

theorem Entries.first_iff {α : Type} {Holds : String → Prop} [DecidablePred Holds]
    {entries : Entries α} {found : Option α} :
    Entries.First Holds entries found ↔
      (entries.find? fun (name, _) => Holds name).map Prod.snd = found := by
  constructor
  · intro first
    induction first with
    | nothing => rfl
    | here holds => simp [holds]
    | later fails _ induction => simpa [fails] using induction
  · intro equal
    induction entries generalizing found with
    | nil =>
        rw [← equal]
        exact .nothing
    | cons entry rest induction =>
        rcases entry with ⟨name, item⟩
        by_cases holds : Holds name
        · rw [← equal, List.find?_cons_of_pos (by simpa using holds)]
          exact .here holds
        · rw [List.find?_cons_of_neg (by simpa using holds)] at equal
          exact .later holds (induction equal)

theorem Entries.value?_eq_find? {α : Type} (entries : Entries α) (name : String) :
    Entries.value? entries name = (entries.find? fun (other, _) => other = name).map Prod.snd := by
  induction entries with
  | nil => rfl
  | cons entry rest induction =>
      rcases entry with ⟨other, item⟩
      by_cases equal : other = name
      · simp [Entries.value?, equal]
      · simpa [Entries.value?, equal] using induction

theorem isSuccess_iff (status : String) : isSuccess status ↔ ['2'] <+: status.toList := by
  unfold isSuccess
  cases status.toList with
  | nil => simp
  | cons first rest => simpa using eq_comm

theorem successResponse?_eq_iff {operation : Operation} {response? : Option (Referable Response)} :
    successResponse? operation = response? ↔ operation.Answers response? := by
  have usual (found : Option (Referable Response)) :
      Entries.First (· = "200") operation.responses found ↔
        Entries.value? operation.responses successStatus = found := by
    rw [Entries.first_iff, Entries.value?_eq_find?, successStatus]
  have other (found : Option (Referable Response)) :
      Entries.First (['2'] <+: ·.toList) operation.responses found ↔
        (operation.responses.find? (isSuccess ·.1)).map Prod.snd = found := by
    simp only [Entries.first_iff, ← isSuccess_iff, Bool.decide_eq_true]
  unfold successResponse?
  constructor
  · intro chosen
    split at chosen
    next response listed =>
      rw [← chosen]
      exact .usual ((usual _).mpr listed)
    next missing => exact .other ((usual _).mpr missing) ((other _).mpr chosen)
  · intro answers
    cases answers with
    | usual listed => simp only [(usual _).mp listed]
    | other missing first => simpa only [(usual _).mp missing] using (other _).mp first

theorem firstSchema?_eq_iff {content : BodyContent} {offered : Option (String × SchemaSlot)} :
    firstSchema? content = offered ↔ content.Offers offered := by
  constructor
  · intro chosen
    induction content generalizing offered with
    | nil =>
        rw [← chosen]
        exact .nothing
    | cons entry rest induction =>
        rcases entry with ⟨mediaType, slot | slot⟩
        · exact .later (induction chosen)
        · rw [← chosen]
          exact .schema
  · intro offers
    induction offers with
    | nothing => rfl
    | schema => rfl
    | later _ induction => exact induction

end Choices

/-! ## What is taken -/

/-- The parameters that become fields of a handler and the schemas of its bodies, with all
references to parameters, bodies and responses resolved. -/
structure OperationParts where
  parameters : List Parameter
  request : Option (String × SchemaSlot)
  response : Option SchemaSlot

/-- The schemas in all of the parts. -/
def OperationParts.slots (parts : OperationParts) : List SchemaSlot :=
  parts.parameters.filterMap Parameter.schema ++ (parts.request.map Prod.snd).toList ++
    parts.response.toList

theorem OperationParts.forall_mem_slots {parts : OperationParts} {holds : SchemaSlot → Prop} :
    (∀ slot ∈ parts.slots, holds slot) ↔
      (∀ parameter ∈ parts.parameters, ∀ slot, parameter.schema = some slot → holds slot) ∧
        (∀ slot, parts.request.map Prod.snd = some slot → holds slot) ∧
        ∀ slot, parts.response = some slot → holds slot := by
  simp only [slots, List.forall_mem_append, List.mem_filterMap, Option.mem_toList, and_assoc]
  refine and_congr_left fun _ => ?_
  constructor
  · exact fun each parameter member slot given => each slot ⟨parameter, member, given⟩
  · rintro each slot ⟨parameter, member, given⟩
    exact each parameter member slot given

namespace Document

variable (document : Document)

abbrev ResolvesParameter : Referable Parameter → Parameter → Prop :=
  Referable.Resolves document.components.parameters (Pointer.component? · "parameters")

abbrev ResolvesRequestBody : Referable RequestBody → RequestBody → Prop :=
  Referable.Resolves document.components.requestBodies (Pointer.component? · "requestBodies")

abbrev ResolvesResponse : Referable Response → Response → Prop :=
  Referable.Resolves document.components.responses (Pointer.component? · "responses")

/-- What is requested of an operation: the schema that its request body offers. -/
inductive Requests (document : Document) (operation : Operation) :
    Option (String × SchemaSlot) → Prop where
  | nothing (missing : operation.requestBody = none) : document.Requests operation none
  | body {item : Referable RequestBody} {body : RequestBody}
      {offered : Option (String × SchemaSlot)} (given : operation.requestBody = some item)
      (resolves : document.ResolvesRequestBody item body) (offers : body.content.Offers offered) :
      document.Requests operation offered

/-- What an operation responds with: the schema that the response to success offers. -/
inductive Responds (document : Document) (operation : Operation) :
    Option SchemaSlot → Prop where
  | nothing (missing : operation.Answers none) : document.Responds operation none
  | response {item : Referable Response} {response : Response}
      {offered : Option (String × SchemaSlot)} (answers : operation.Answers (some item))
      (resolves : document.ResolvesResponse item response)
      (offers : response.content.Offers offered) :
      document.Responds operation (offered.map Prod.snd)

/-- All parameters of an operation and of its path resolve, and so do its request body and its
response to success. The parts are the merged parameters, but for cookies, and what the bodies
offer. -/
structure Takes (entry : OperationEntry) (parts : OperationParts) : Prop where
  parameters : ∃ shared own merged,
    List.Forall₂ document.ResolvesParameter entry.pathItem.parameters shared ∧
      List.Forall₂ document.ResolvesParameter entry.operation.parameters own ∧
      Merges shared own merged ∧ parts.parameters = merged.filter (·.location != .cookie)
  request : document.Requests entry.operation parts.request
  response : document.Responds entry.operation parts.response

def operationParts (entry : OperationEntry) : Except BuildError OperationParts := do
  let parameters ← collectParameters document entry entry.handlerName
  let request ← requestSchema? document entry.operation entry.handlerName
  let response ← responseSchema? document entry.operation entry.handlerName
  return ⟨parameters.filter (·.location != .cookie), request, response⟩

end Document

section Parts

variable {document : Document}

theorem collectParameters_eq_ok_iff {entry : OperationEntry} {handler : String}
    {parameters : List Parameter} :
    collectParameters document entry handler = .ok parameters ↔
      ∃ shared own,
        List.Forall₂ document.ResolvesParameter entry.pathItem.parameters shared ∧
          List.Forall₂ document.ResolvesParameter entry.operation.parameters own ∧
          own.foldl overrideParameter shared = parameters := by
  simp only [collectParameters, bind_eq_ok_iff, mapM_eq_ok_iff, resolveComponent_eq_ok_iff]
  constructor
  · intro holds
    rcases holds with ⟨shared, first, own, second, equal⟩
    exact ⟨shared, own, first, second, Except.ok.inj equal⟩
  · intro holds
    rcases holds with ⟨shared, own, first, second, equal⟩
    exact ⟨shared, first, own, second, by rw [equal]; rfl⟩

theorem requestSchema?_eq_ok_iff {operation : Operation} {handler : String}
    {result : Option (String × SchemaSlot)} :
    requestSchema? document operation handler = .ok result ↔
      document.Requests operation result := by
  unfold requestSchema?
  constructor
  · intro taken
    split at taken
    next missing =>
      cases taken
      exact .nothing missing
    next item given =>
      rcases bind_eq_ok_iff.mp taken with ⟨body, resolved, equal⟩
      exact .body given (resolveComponent_eq_ok_iff.mp resolved)
        (firstSchema?_eq_iff.mp (Except.ok.inj equal))
  · intro requests
    cases requests with
    | nothing missing => rw [missing]
    | body given resolves offers =>
        rw [given]
        exact bind_eq_ok_iff.mpr ⟨_, resolveComponent_eq_ok_iff.mpr resolves,
          congrArg Except.ok (firstSchema?_eq_iff.mpr offers)⟩

theorem responseSchema?_eq_ok_iff {operation : Operation} {handler : String}
    {result : Option SchemaSlot} :
    responseSchema? document operation handler = .ok result ↔
      document.Responds operation result := by
  unfold responseSchema?
  constructor
  · intro taken
    split at taken
    next missing =>
      cases taken
      exact .nothing (successResponse?_eq_iff.mp missing)
    next item given =>
      rcases bind_eq_ok_iff.mp taken with ⟨response, resolved, equal⟩
      rw [← Except.ok.inj equal]
      exact .response (successResponse?_eq_iff.mp given) (resolveComponent_eq_ok_iff.mp resolved)
        (firstSchema?_eq_iff.mp rfl)
  · intro responds
    cases responds with
    | nothing missing => rw [successResponse?_eq_iff.mpr missing]
    | response answers resolves offers =>
        rw [successResponse?_eq_iff.mpr answers, ← firstSchema?_eq_iff.mpr offers]
        exact bind_eq_ok_iff.mpr ⟨_, resolveComponent_eq_ok_iff.mpr resolves, rfl⟩

namespace Document

/-- The parts of an operation come from what it refers to. -/
theorem operationParts_eq_ok_iff {entry : OperationEntry} {parts : OperationParts} :
    document.operationParts entry = .ok parts ↔
      ∃ parameters, collectParameters document entry entry.handlerName = .ok parameters ∧
        requestSchema? document entry.operation entry.handlerName = .ok parts.request ∧
        responseSchema? document entry.operation entry.handlerName = .ok parts.response ∧
        parts.parameters = parameters.filter (·.location != .cookie) := by
  rw [operationParts]
  constructor
  · intro taken
    rcases bind_eq_ok_iff.mp taken with ⟨parameters, collected, taken⟩
    rcases bind_eq_ok_iff.mp taken with ⟨request, requested, taken⟩
    rcases bind_eq_ok_iff.mp taken with ⟨response, responded, equal⟩
    cases equal
    exact ⟨parameters, collected, requested, responded, rfl⟩
  · intro found
    rcases found with ⟨parameters, collected, requested, responded, kept⟩
    rw [collected, requested, responded]
    simp only [bind, Except.bind, pure, Except.pure, ← kept]

/-- The converter takes the parts that the document says. -/
theorem takes_iff {entry : OperationEntry} {parts : OperationParts} :
    document.Takes entry parts ↔ document.operationParts entry = .ok parts := by
  rw [operationParts_eq_ok_iff]
  simp only [collectParameters_eq_ok_iff, requestSchema?_eq_ok_iff, responseSchema?_eq_ok_iff]
  constructor
  · intro takes
    rcases takes.parameters with ⟨shared, own, merged, forPath, forSelf, merges, kept⟩
    exact ⟨merged, ⟨shared, own, forPath, forSelf, merges_iff.mp merges⟩, takes.request,
      takes.response, kept⟩
  · intro found
    rcases found with ⟨merged, ⟨shared, own, forPath, forSelf, equal⟩, requests, responds, kept⟩
    exact ⟨⟨shared, own, merged, forPath, forSelf, merges_iff.mpr equal, kept⟩, requests,
      responds⟩

end Document

end Parts

end ApiGraph
