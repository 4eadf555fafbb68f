import ApiGraph.Proofs.Matching
import ApiGraph.Proofs.Redirection.Operation
import Mathlib

namespace ApiGraph

/-! # Documents with other references

Where the components of two documents are declared under the same names and are the same but for
references that mean the same, the documents say the same. Neither the order of the components nor
the way in which references are written makes a difference. -/

open Referable

/-- Under every name, the second document declares what the first one declares, but for how
references inside definitions are written. -/
structure Document.Rewrites (Same : String → String → Prop) (first second : Document) : Prop where
  info : second.info = first.info
  declared : ∀ name, name ∈ Entries.names second.components.schemas ↔
    name ∈ Entries.names first.components.schemas
  schemas : Agree (fun schema other => Redirects Same (.inline schema) (.inline other))
    first.components.schemas second.components.schemas
  parameters : Agree (Parameter.Rel (Redirects Same))
    first.components.parameters second.components.parameters
  requestBodies : Agree (RequestBody.Rel (Redirects Same))
    first.components.requestBodies second.components.requestBodies
  responses : Agree (Response.Rel (Redirects Same))
    first.components.responses second.components.responses

/-- References that are exchanged for each other mean the same. -/
def Document.Respects (document : Document) (Same : String → String → Prop) : Prop :=
  ∀ path other, Same path other → document.noted? other = document.noted? path

section Resolves

variable {α : Type} {Related : α → α → Prop} {components others : Entries (Referable α)}
  {target? : String → Option String}

theorem Referable.Agree.resolves_forall₂ (agree : Agree Related components others)
    {items moved : List (Referable α)} {values : List α}
    (related : List.Forall₂ (Rel Related) items moved)
    (resolves : List.Forall₂ (Resolves components target?) items values) :
    ∃ results, List.Forall₂ (Resolves others target?) moved results ∧
      List.Forall₂ Related values results := by
  induction related generalizing values with
  | nil =>
      cases resolves
      exact ⟨[], .nil, .nil⟩
  | cons here _ induction =>
      cases resolves with
      | cons first rest =>
          rcases agree.resolves here first with ⟨other, also, same⟩
          rcases induction rest with ⟨results, more, related⟩
          exact ⟨other :: results, .cons also more, .cons same related⟩

end Resolves

namespace Document.Rewrites

variable {Same : String → String → Prop} {first second : Document}
  (rewrites : first.Rewrites Same second)

include rewrites

theorem noted? (path : String) : second.noted? path = first.noted? path :=
  noted?_eq_of_agree rewrites.schemas (fun redirects => redirects.rel.summary?_eq) path

section Components

variable (respects : first.Respects Same)

include respects

theorem sameMeaning {slot other : SchemaSlot} (redirects : Redirects Same slot other) :
    first.SameMeaning second slot other := by
  refine sameMeaning_of_redirects ?_ redirects
  intro path other same
  rw [rewrites.noted?, respects path other same]

theorem definesAlike {schema other : Schema}
    (redirects : Redirects Same (.inline schema) (.inline other)) :
    first.DefinesAlike second schema other where
  summary := redirects.rel.summary?_eq
  translation := translate_eq_of_rel (redirects.rel.imp (rewrites.sameMeaning respects))
  tally := (redirects.rel.imp Redirects.sameTally).shapeTally_eq

theorem toMatches : first.Matches second where
  declared := rewrites.declared
  leads := by
    intro name last schema leads
    rcases rewrites.schemas.leadsTo leads with ⟨other, also, redirects⟩
    exact ⟨other, also, rewrites.definesAlike respects redirects⟩

end Components

/-! ## Operations -/

section Operations

variable {entry other : OperationEntry}
  (related : OperationEntry.Rel (Redirects Same) entry other)

include related

theorem collectParameters {handler again : String} {parameters : List Parameter}
    (collected : collectParameters first entry handler = .ok parameters) :
    ∃ others, collectParameters second other again = .ok others ∧
      List.Forall₂ (Parameter.Rel (Redirects Same)) parameters others := by
  rcases collectParameters_eq_ok_iff.mp collected with ⟨shared, own, forPath, forSelf, rfl⟩
  rcases rewrites.parameters.resolves_forall₂ related.pathItem.parameters forPath with
    ⟨others, sharedResolve, sharedRelated⟩
  rcases rewrites.parameters.resolves_forall₂ related.operation.parameters forSelf with
    ⟨moved, ownResolve, ownRelated⟩
  refine ⟨moved.foldl overrideParameter others,
    collectParameters_eq_ok_iff.mpr ⟨others, moved, sharedResolve, ownResolve, rfl⟩, ?_⟩
  exact List.rel_foldl (fun _ _ base _ _ here => here.override base) sharedRelated ownRelated

theorem requestSchema? {handler again : String} {request : Option (String × SchemaSlot)}
    (requested : requestSchema? first entry.operation handler = .ok request) :
    ∃ moved, requestSchema? second other.operation again = .ok moved ∧
      moved.map Prod.fst = request.map Prod.fst ∧
      Option.Rel (Redirects Same) (request.map Prod.snd) (moved.map Prod.snd) := by
  have bodies := related.operation.requestBody
  simp only [requestSchema?_eq_ok_iff] at requested ⊢
  cases requested with
  | nothing missing =>
      rw [missing] at bodies
      generalize moved : other.operation.requestBody = other? at bodies
      cases bodies
      exact ⟨none, .nothing moved, rfl, .none⟩
  | body given resolves offers =>
      rw [given] at bodies
      generalize moved : other.operation.requestBody = other? at bodies
      cases bodies with
      | some items =>
          rcases rewrites.requestBodies.resolves items resolves with ⟨body, also, same⟩
          rw [← firstSchema?_eq_iff.mpr offers]
          exact ⟨_, .body moved also (firstSchema?_eq_iff.mp rfl), same.content.firstSchema?⟩

theorem responseSchema? {handler again : String} {response : Option SchemaSlot}
    (responded : responseSchema? first entry.operation handler = .ok response) :
    ∃ moved, responseSchema? second other.operation again = .ok moved ∧
      Option.Rel (Redirects Same) response moved := by
  have answers := related.operation.successResponse?
  simp only [responseSchema?_eq_ok_iff] at responded ⊢
  cases responded with
  | nothing missing =>
      rw [successResponse?_eq_iff.mpr missing] at answers
      generalize moved : successResponse? other.operation = other? at answers
      cases answers
      exact ⟨none, .nothing (successResponse?_eq_iff.mp moved), .none⟩
  | response given resolves offers =>
      rw [successResponse?_eq_iff.mpr given] at answers
      generalize moved : successResponse? other.operation = other? at answers
      cases answers with
      | some items =>
          rcases rewrites.responses.resolves items resolves with ⟨response, also, same⟩
          rw [← firstSchema?_eq_iff.mpr offers]
          exact ⟨_, .response (successResponse?_eq_iff.mp moved) also (firstSchema?_eq_iff.mp rfl),
            same.content.firstSchema?.2⟩

theorem operationParts {parts : OperationParts}
    (taken : first.operationParts entry = .ok parts) :
    ∃ others, second.operationParts other = .ok others ∧
      OperationParts.Rel (Redirects Same) parts others := by
  rw [Document.operationParts] at taken
  rcases bind_eq_ok_iff.mp taken with ⟨parameters, collected, taken⟩
  rcases bind_eq_ok_iff.mp taken with ⟨request, requested, taken⟩
  rcases bind_eq_ok_iff.mp taken with ⟨response, responded, equal⟩
  cases equal
  rcases rewrites.collectParameters related collected with ⟨others, collected, parametersRelated⟩
  rcases rewrites.requestSchema? related requested with
    ⟨moved, requested, media, requestRelated⟩
  rcases rewrites.responseSchema? related responded with ⟨answer, responded, responseRelated⟩
  refine ⟨⟨others.filter (·.location != .cookie), moved, answer⟩, ?_, ?_⟩
  · rw [Document.operationParts, collected, requested, responded]
    rfl
  · refine ⟨List.rel_filter ?_ parametersRelated, media, requestRelated, responseRelated⟩
    intro parameter other here
    simp only [here.location_eq]

theorem operatesAlike (respects : first.Respects Same) {parts : OperationParts}
    (taken : first.operationParts entry = .ok parts) : first.OperatesAlike second entry other := by
  rcases rewrites.operationParts related taken with ⟨others, moved, same⟩
  constructor
  · exact related.operation_eq.2.1
  · rw [translateOperation, translateOperation, taken, moved]
    exact translateParts_eq (fun redirects => (rewrites.sameMeaning respects redirects).type)
      related same
  · rw [operationTally, operationTally, taken, moved, related.handlerName_eq]
    exact same.tally_eq Redirects.sameTally _

end Operations

/-! ## Builds -/

/-- A document that can be built says the same with other references. -/
theorem corresponds (respects : first.Respects Same) {entries : List OperationEntry}
    (perm : first.operations.Perm entries)
    (operations : List.Forall₂ (OperationEntry.Rel (Redirects Same)) entries second.operations)
    {config : Config} {before : Build} (built : build first config = .ok before) :
    first.Corresponds second entries where
  info := rewrites.info
  components := rewrites.toMatches respects
  perm := perm
  operations := by
    rcases exists_arises built with ⟨progress, grouped, arises⟩
    rcases arises.converted.handled with ⟨handled, handles, _⟩
    have taken : ∀ entry ∈ entries, ∃ parts, first.operationParts entry = .ok parts := by
      intro entry member
      have inside := perm.mem_iff.mpr member
      rw [← handles.entries] at inside
      rcases List.mem_map.mp inside with ⟨pair, listed, rfl⟩
      rcases translateOperation_eq_some (handles.translates pair listed).translated with
        ⟨parts, taken, _⟩
      exact ⟨parts, taken⟩
    clear perm
    generalize second.operations = others at operations
    induction operations with
    | nil => exact .nil
    | cons here _ induction =>
        rw [List.forall_mem_cons] at taken
        rcases taken.1 with ⟨parts, taken_⟩
        exact .cons (rewrites.operatesAlike here respects taken_) (induction taken.2)

end Document.Rewrites

end ApiGraph
