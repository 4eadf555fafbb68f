import ApiGraph.Build
import ApiGraph.Proofs.Conversion.Operation
import ApiGraph.Proofs.Conversion.Parts
import ApiGraph.Proofs.Conversion.Success

namespace ApiGraph

/-! # When the conversion of operations succeeds

Once all components can be converted, an operation can be converted exactly when everything that it
refers to resolves and the schemas that it takes are supported. -/

open Conversion Converting

/-! ## What an operation needs -/

/-- An operation takes its parts from the document, and their schemas are supported. -/
def Document.SupportsOperation (document : Document) (entry : OperationEntry) : Prop :=
  ∃ parts, document.Takes entry parts ∧ ∀ slot ∈ parts.slots, document.Supports slot

variable {document : Document}

/-! ## Conditions of success -/

namespace Converting

variable {α β : Type} {Holds : Progress → Prop} {Means : α → Prop} {condition rest : Prop}

/-- In every state with a property, an action succeeds exactly on a condition. -/
def SucceedsIff (Holds : Progress → Prop) (action : Converting α) (condition : Prop) : Prop :=
  ∀ progress, Holds progress → ((∃ value, (action.run progress).1 = .ok value) ↔ condition)

theorem SucceedsIff.of_iff {action : Converting α} (equivalent : condition ↔ rest)
    (succeeds : SucceedsIff Holds action condition) : SucceedsIff Holds action rest :=
  fun progress holds => (succeeds progress holds).trans equivalent

theorem SucceedsIff.pure (value : α) : SucceedsIff Holds (Pure.pure value : Converting α) True :=
  fun _ _ => ⟨fun _ => trivial, fun _ => ⟨value, rfl⟩⟩

theorem SucceedsIff.modify (change : Progress → Progress) :
    SucceedsIff Holds (modify change : Converting Unit) True :=
  fun _ _ => ⟨fun _ => trivial, fun _ => ⟨(), rfl⟩⟩

theorem SucceedsIff.bind {action : Converting α} {next : α → Converting β}
    (keeps : Keeps Holds action Means) (first : SucceedsIff Holds action condition)
    (second : ∀ value, Means value → SucceedsIff Holds (next value) rest) :
    SucceedsIff Holds (action >>= next) (condition ∧ rest) := by
  intro progress holds
  rcases keeps progress holds with ⟨kept, means⟩
  have here := first progress holds
  rw [run_bind]
  cases outcome : (action.run progress).1 with
  | error error =>
      rw [outcome] at here
      constructor
      · intro success
        rcases success with ⟨value, success⟩
        cases success
      · intro both
        rcases here.mpr both.1 with ⟨value, success⟩
        cases success
  | ok value =>
      rw [outcome] at here
      have met : condition := here.mp ⟨value, rfl⟩
      simpa only [met, true_and] using second value (means value outcome) _ kept

/-- An action that goes on from a result that does not depend on the state. -/
theorem SucceedsIff.lift {result : Except BuildError α} {next : α → Converting β}
    {after : α → Prop}
    (second : ∀ value, result = .ok value → SucceedsIff Holds (next value) (after value)) :
    SucceedsIff Holds (ConvertingIn.lift result >>= next)
      (∃ value, result = .ok value ∧ after value) := by
  intro progress holds
  rw [run_bind]
  cases result with
  | error error =>
      constructor
      · intro success
        rcases success with ⟨value, success⟩
        cases success
      · intro met
        rcases met with ⟨value, success, _⟩
        cases success
  | ok value =>
      simp only [Except.ok.injEq, exists_eq_left']
      exact second value rfl progress holds

theorem SucceedsIff.mapM {action : α → Converting β} {condition : α → Prop}
    (keeps : ∀ value, Keeps Holds (action value) fun _ => True)
    (each : ∀ value, SucceedsIff Holds (action value) (condition value)) (values : List α) :
    SucceedsIff Holds (values.mapM action) (∀ value ∈ values, condition value) := by
  induction values with
  | nil =>
      rw [List.mapM_nil]
      simpa using @SucceedsIff.pure _ Holds []
  | cons value others induction =>
      rw [List.mapM_cons, List.forall_mem_cons]
      apply SucceedsIff.bind (keeps value) (each value)
      intro result _
      simpa using SucceedsIff.bind (Keeps.mapM keeps others) induction
        fun results _ => .pure (result :: results)

end Converting

/-! ## Operations -/

section Operation

variable (chains : document.ChainsEnd) (definitions : document.DefinitionsHold)

include chains definitions

theorem succeeds_convertSchema {slot : SchemaSlot} (supports : document.Supports slot)
    (progress : Progress) (location : String) :
    Succeeds (convertSchema document progress slot location) := by
  unfold convertSchema
  apply succeeds_convertSlot
  · intro progress _ path location declares
    rcases Document.target?_of_declares declares with ⟨name, declared, found⟩
    simp only [resolveReference, found]
    exact succeeds_convertNamed chains definitions progress name
      ((Entries.value?_isSome_iff _ _).mp declared)
  · exact supports

theorem succeedsIff_slot (slot : SchemaSlot) (location : String) :
    SucceedsIff (fun progress => progress.registry.Faithful document)
      (document.schemaConversion.slot slot location)
      (document.Supports slot) := by
  intro progress faithful
  constructor
  · intro succeeds
    rcases succeeds with ⟨type, success⟩
    have holds := (yields_convertSchema document progress slot location faithful).means success
    exact Document.supports_of_translateSlot holds.2
  · intro supports
    exact succeeds_convertSchema chains definitions supports progress location

theorem succeedsIff_parameter (handler : String) (parameter : Parameter) :
    SucceedsIff (fun progress => progress.registry.Faithful document)
      (document.schemaConversion.parameter handler parameter)
      (∀ slot, parameter.schema = some slot → document.Supports slot) := by
  have type (location : String) : SucceedsIff (fun progress => progress.registry.Faithful document)
      (document.schemaConversion.parameterType parameter location)
      (∀ slot, parameter.schema = some slot → document.Supports slot) := by
    unfold SchemaConversion.parameterType
    split
    next slot found =>
      simpa [found] using succeedsIff_slot chains definitions slot location
    next missing =>
      intro progress _
      rw [missing]
      constructor
      · intro _ slot found
        cases found
      · intro _
        exact ⟨.inline .unknown, rfl⟩
  unfold SchemaConversion.parameter
  simpa using SucceedsIff.bind
    (keeps_parameterType (maintains_faithful document) parameter _) (type _)
    fun _ _ => .pure _

theorem succeedsIff_body (location : String) (slot? : Option SchemaSlot) :
    SucceedsIff (fun progress => progress.registry.Faithful document)
      (document.schemaConversion.body location slot?)
      (∀ slot, slot? = some slot → document.Supports slot) := by
  unfold SchemaConversion.body
  cases slot? with
  | none => simpa using @SucceedsIff.pure _ (fun progress => progress.registry.Faithful document) none
  | some slot =>
      simpa using SucceedsIff.bind (keeps_slot (maintains_faithful document) slot location)
        (succeedsIff_slot chains definitions slot location) fun _ _ => .pure _

end Operation

/-! ## Conditions in terms of the document -/

/-- What an operation needs, in the order in which its conversion comes to it. -/
theorem Document.supportsOperation_iff {entry : OperationEntry} :
    document.SupportsOperation entry ↔
      ∃ parameters, collectParameters document entry entry.handlerName = .ok parameters ∧
        (∀ parameter ∈ parameters.filter (·.location != .cookie),
          ∀ slot, parameter.schema = some slot → document.Supports slot) ∧
        ∃ request, requestSchema? document entry.operation entry.handlerName = .ok request ∧
          (∀ slot, request.map Prod.snd = some slot → document.Supports slot) ∧
          ∃ response, responseSchema? document entry.operation entry.handlerName = .ok response ∧
            ∀ slot, response = some slot → document.Supports slot := by
  simp only [SupportsOperation, takes_iff, operationParts_eq_ok_iff, OperationParts.forall_mem_slots]
  constructor
  · intro supports
    rcases supports with ⟨parts, ⟨parameters, collected, requested, responded, kept⟩, first, second,
      last⟩
    exact ⟨parameters, collected, kept ▸ first, _, requested, second, _, responded, last⟩
  · intro supports
    rcases supports with ⟨parameters, collected, first, request, requested, second, response,
      responded, last⟩
    exact ⟨⟨_, request, response⟩, ⟨parameters, collected, requested, responded, rfl⟩, first, second,
      last⟩

theorem succeedsIff_convertOperation (chains : document.ChainsEnd)
    (definitions : document.DefinitionsHold) (entry : OperationEntry) :
    SucceedsIff (fun progress => progress.registry.Faithful document)
      (convertOperation document entry) (document.SupportsOperation entry) := by
  have maintains := maintains_faithful document
  have body := succeedsIff_body chains definitions
  refine .of_iff Document.supportsOperation_iff.symm ?_
  unfold convertOperation SchemaConversion.operation
  refine .lift fun parameters _ => ?_
  refine .bind (Keeps.mapM (keeps_parameter maintains _) _)
    (.mapM (keeps_parameter maintains _)
      (succeedsIff_parameter chains definitions _) _) fun fields _ => ?_
  refine .lift fun request _ => ?_
  refine .bind (keeps_body maintains _ _) (body _ _) fun requestBody _ => ?_
  refine .lift fun response _ => ?_
  refine .of_iff (Iff.of_eq (and_true _)) ?_
  refine .bind (keeps_body maintains _ _) (body _ _) fun responseBody _ => ?_
  refine .of_iff (Iff.of_eq (and_self True)) ?_
  exact .bind (Keeps.modify maintains.counts) (.modify Progress.countHandler) fun _ _ => .pure _

theorem succeedsIff_convertOperations (chains : document.ChainsEnd)
    (definitions : document.DefinitionsHold) (fallback : String) (modules : ModuleMap)
    (entries : List OperationEntry) :
    SucceedsIff (fun progress => progress.registry.Faithful document)
      (convertOperations document fallback modules entries)
      (∀ entry ∈ entries, document.SupportsOperation entry) := by
  induction entries generalizing modules with
  | nil =>
      rw [convertOperations_nil]
      simpa using SucceedsIff.pure modules
  | cons entry rest induction =>
      rw [convertOperations_cons, List.forall_mem_cons]
      exact (succeedsIff_convertOperation chains definitions entry).bind
        (keeps_convertOperation (maintains_faithful document) entry) fun _ _ => induction _

end ApiGraph
