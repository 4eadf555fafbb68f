import ApiGraph.Build
import ApiGraph.Proofs.Conversion.Accesses

namespace ApiGraph

/-! # Conversions with checked accesses

A call fails here when it comes to an access of a type that is not there at that moment, and so does
whatever makes the call. -/

namespace Checked

/-- What is answered to a call, unless one of its accesses fails. -/
def ask (document : Document) (call : Call) (progress : Progress) : Option (Outcome call.Answer) :=
  if ∀ access ∈ Frame.accesses document ⟨call, progress⟩, access.InBounds then
    some (call.perform document progress)
  else none

theorem ask_eq {document : Document} {progress : Progress} (call : Call)
    (faithful : progress.registry.Faithful document) :
    ask document call progress = some (call.perform document progress) :=
  if_pos (Frame.inBounds_accesses ⟨call, progress⟩ faithful)

/-! ## Operations -/

abbrev Converting := ConvertingIn Option

def schemaConversion (document : Document) : SchemaConversion Option where
  components := ExceptT.mk (ask document .components)
  slot slot location := ExceptT.mk (ask document (.type slot location))

def convertOperation (document : Document) (entry : OperationEntry) : Converting Handler :=
  (schemaConversion document).operation document entry

def convertDocument (document : Document) (fallback : String) : Converting ModuleMap :=
  (schemaConversion document).document document fallback

/-! ## Conversions that supply registered types -/

/-- Types are registered, and what is handed on refers to registered types only. -/
structure Supplied {α : Type} (document : Document) (targets : α → List TypeId) (start : Progress)
    (outcome : Outcome α) : Prop where
  faithful : outcome.2.registry.Faithful document
  size_le : start.registry.size ≤ outcome.2.registry.size
  registers : ∀ value, outcome.1 = .ok value → outcome.2.registry.Registers (targets value)

/-- Where the given types are registered, the checked conversion does what the other one does. -/
def Supplies {α : Type} (document : Document) (given : List TypeId) (checked : Converting α)
    (plain : ApiGraph.Converting α) (targets : α → List TypeId) : Prop :=
  ∀ progress, progress.registry.Faithful document → progress.registry.Registers given →
    checked.run progress = some (plain.run progress) ∧
      Supplied document targets progress (plain.run progress)

section Rules

variable {document : Document} {given : List TypeId} {α β : Type}

theorem run_bind (action : Converting α) (next : α → Converting β) (progress : Progress) :
    (action >>= next).run progress = (action.run progress).bind fun outcome =>
      match outcome.1 with
      | .ok value => (next value).run outcome.2
      | .error error => some (.error error, outcome.2) := by
  change ((action.run progress).bind fun outcome =>
    ExceptT.bindCont next outcome.1 outcome.2) = _
  congr 1
  funext outcome
  rcases outcome with ⟨result, state⟩
  cases result <;> rfl

theorem Supplies.pure {value : α} {targets : α → List TypeId}
    (covered : ∀ target ∈ targets value, target ∈ given) :
    Supplies document given (pure value) (pure value) targets := by
  intro progress faithful registered
  refine ⟨rfl, faithful, Nat.le_refl _, ?_⟩
  intro result success target member
  cases success
  exact registered target (covered target member)

theorem Supplies.lift (result : Except BuildError α) :
    Supplies document given (ConvertingIn.lift result) (ConvertingIn.lift result)
      fun _ => [] := by
  intro progress faithful _
  exact ⟨rfl, faithful, Nat.le_refl _, fun _ _ _ member => by cases member⟩

theorem Supplies.change {change : Progress → Progress}
    (unchanged : ∀ progress, (change progress).registry = progress.registry) :
    Supplies document given (modify change : Converting Unit)
      (modify change : ApiGraph.Converting Unit) fun _ => [] := by
  intro progress faithful _
  have same : ((modify change : ApiGraph.Converting Unit).run progress).2.registry =
      progress.registry := unchanged progress
  refine ⟨rfl, ?_, ?_, fun _ _ _ member => by cases member⟩
  · rw [same]
    exact faithful
  · rw [same]

theorem Supplies.bind {first : Converting α} {plainFirst : ApiGraph.Converting α}
    {next : α → Converting β} {plainNext : α → ApiGraph.Converting β}
    {targets : α → List TypeId} {further : β → List TypeId}
    (supplies : Supplies document given first plainFirst targets)
    (supplied : ∀ value,
      Supplies document (given ++ targets value) (next value) (plainNext value) further) :
    Supplies document given (first >>= next) (plainFirst >>= plainNext) further := by
  intro progress faithful registered
  rcases supplies progress faithful registered with ⟨same, done⟩
  rw [run_bind, same, Option.bind_some, ApiGraph.Converting.run_bind]
  cases success : (plainFirst.run progress).1 with
  | error error =>
      refine ⟨rfl, done.faithful, done.size_le, ?_⟩
      intro value impossible
      cases impossible
  | ok value =>
      have known : (plainFirst.run progress).2.registry.Registers (given ++ targets value) := by
        intro target member
        rcases List.mem_append.mp member with before | added
        · exact Nat.lt_of_lt_of_le (registered target before) done.size_le
        · exact done.registers value success target added
      rcases supplied value _ done.faithful known with ⟨later, rest⟩
      exact ⟨later, rest.faithful, Nat.le_trans done.size_le rest.size_le, rest.registers⟩

theorem Supplies.mapM {action : α → Converting β} {plain : α → ApiGraph.Converting β}
    {targets : β → List TypeId}
    (each : ∀ given value, Supplies document given (action value) (plain value) targets)
    (values : List α) :
    Supplies document given (values.mapM action) (values.mapM plain)
      fun results => results.flatMap targets := by
  induction values generalizing given with
  | nil =>
      rw [List.mapM_nil, List.mapM_nil]
      exact .pure fun _ member => by cases member
  | cons value rest induction =>
      rw [List.mapM_cons, List.mapM_cons]
      refine (each given value).bind fun first => induction.bind fun others => .pure ?_
      intro target member
      rw [List.flatMap_cons] at member
      rw [List.append_assoc]
      exact List.mem_append_right _ member

end Rules

section Operations

variable {document : Document} {given : List TypeId}

theorem supplied_perform {progress : Progress} (call : Call)
    (faithful : progress.registry.Faithful document) :
    Supplied document call.targets progress (call.perform document progress) where
  faithful := call.faithful_perform faithful
  size_le := by
    rcases call.exists_yields faithful with ⟨step, _, performed, yields⟩
    rw [performed]
    exact yields.grows.size_le
  registers _ answered := call.registers_targets faithful answered

theorem supplies_ask (call : Call) {plain : ApiGraph.Converting call.Answer}
    (performs : ∀ progress, plain.run progress = call.perform document progress) :
    Supplies document given (ExceptT.mk (ask document call)) plain call.targets := by
  intro progress faithful _
  rw [performs]
  exact ⟨ask_eq call faithful, supplied_perform call faithful⟩

theorem supplies_slot (slot : SchemaSlot) (location : String) :
    Supplies document given ((schemaConversion document).slot slot location)
      (document.schemaConversion.slot slot location) TypeRef.targets :=
  supplies_ask (.type slot location) fun _ => rfl

theorem supplies_parameterType (parameter : Parameter) (location : String) :
    Supplies document given ((schemaConversion document).parameterType parameter location)
      (document.schemaConversion.parameterType parameter location) TypeRef.targets := by
  unfold SchemaConversion.parameterType
  cases parameter.schema with
  | some slot => exact supplies_slot slot location
  | none =>
      refine (Supplies.change ?_).bind fun _ => .pure fun _ member => ?_
      · exact fun _ => rfl
      · cases member

theorem supplies_parameter (handler : String) (parameter : Parameter) :
    Supplies document given ((schemaConversion document).parameter handler parameter)
      (document.schemaConversion.parameter handler parameter)
      fun field => field.2.type.targets :=
  (supplies_parameterType parameter _).bind fun _ =>
    .pure fun _ member => List.mem_append_right _ member

theorem supplies_body (location : String) (slot? : Option SchemaSlot) :
    Supplies document given ((schemaConversion document).body location slot?)
      (document.schemaConversion.body location slot?)
      fun type? => type?.toList.flatMap TypeRef.targets := by
  cases slot? with
  | none => exact .pure fun _ member => by cases member
  | some slot =>
      refine (supplies_slot slot location).bind fun type => .pure fun target member => ?_
      rw [Option.toList_some, List.flatMap_singleton] at member
      exact List.mem_append_right _ member

theorem mem_targets_fieldsAt {fields : List (ParameterLocation × TypeField TypeId)}
    {location : ParameterLocation} {target : TypeId} {field : TypeField TypeId}
    (listed : field ∈ fieldsAt location fields) (member : target ∈ field.type.targets) :
    target ∈ fields.flatMap fun field => field.2.type.targets := by
  rcases List.mem_map.mp listed with ⟨placed, inside, rfl⟩
  exact List.mem_flatMap.mpr ⟨placed, (List.mem_filter.mp inside).1, member⟩

theorem supplies_convertOperation (entry : OperationEntry) :
    Supplies document given (convertOperation document entry)
      (ApiGraph.convertOperation document entry)
      fun handler => handler.typeRefs.flatMap TypeRef.targets := by
  unfold convertOperation ApiGraph.convertOperation SchemaConversion.operation
  refine (Supplies.lift _).bind fun parameters => ?_
  refine (Supplies.mapM (fun _ => supplies_parameter _) _).bind fun fields => ?_
  refine (Supplies.lift _).bind fun request => ?_
  refine (supplies_body _ _).bind fun requestBody => ?_
  refine (Supplies.lift _).bind fun response => ?_
  refine (supplies_body _ _).bind fun responseBody => ?_
  refine (Supplies.change fun _ => ?_).bind fun _ => .pure fun target member => ?_
  · rfl
  rcases List.mem_flatMap.mp member with ⟨type, listed, mentioned⟩
  simp only [Handler.typeRefs, Handler.params, List.mem_append, List.mem_map] at listed
  simp only [List.mem_append]
  rcases listed with (body | body) | ⟨field, (inside | inside) | inside, rfl⟩
  · exact .inl (.inl (.inl (.inr (List.mem_flatMap.mpr ⟨type, body, mentioned⟩))))
  · exact .inl (.inr (List.mem_flatMap.mpr ⟨type, body, mentioned⟩))
  all_goals
    have held := mem_targets_fieldsAt inside mentioned
    tauto

theorem supplies_operations (fallback : String) (modules : ModuleMap)
    (entries : List OperationEntry) :
    Supplies document given
      ((schemaConversion document).operations document fallback modules entries)
      (document.schemaConversion.operations document fallback modules entries) fun _ => [] := by
  induction entries generalizing modules given with
  | nil => exact .pure fun _ member => by cases member
  | cons entry rest induction =>
      rw [SchemaConversion.operations, SchemaConversion.operations]
      exact (supplies_convertOperation entry).bind fun handler => induction _

theorem supplies_convertDocument (fallback : String) :
    Supplies document given (convertDocument document fallback)
      (ApiGraph.convertDocument document fallback) fun _ => [] :=
  (supplies_ask .components fun _ => rfl).bind fun _ => supplies_operations fallback _ _

end Operations

/-! ## Requests -/

/-- The state that a request leaves behind, whatever comes of it. -/
def serve (document : Document) (progress : Progress) : Request → Option Progress
  | .call call => (ask document call progress).map Prod.snd
  | .operation entry => ((convertOperation document entry).run progress).map Prod.snd

def serveAll (document : Document) (progress : Progress) : List Request → Option Progress
  | [] => some progress
  | request :: requests =>
      (serve document progress request).bind fun progress => serveAll document progress requests

end Checked

/-! ## What is handed out -/

namespace Document

variable (document : Document)

/-- The types that the result of a request refers to. -/
def handedOut (progress : Progress) : Request → List TypeId
  | .call call =>
      match (call.perform document progress).1 with
      | .ok answer => call.targets answer
      | .error _ => []
  | .operation entry =>
      match ((convertOperation document entry).run progress).1 with
      | .ok handler => handler.typeRefs.flatMap TypeRef.targets
      | .error _ => []

/-- The types that the results of all requests refer to, one request after the other. -/
def handedOutByAll (progress : Progress) : List Request → List TypeId
  | [] => []
  | request :: requests =>
      document.handedOut progress request ++
        handedOutByAll (document.serve progress request) requests

end Document

section Requests

variable {document : Document} {progress : Progress}

theorem serve_spec (request : Request) (faithful : progress.registry.Faithful document) :
    Checked.serve document progress request = some (document.serve progress request) ∧
      progress.registry.size ≤ (document.serve progress request).registry.size ∧
      (document.serve progress request).registry.Registers
        (document.handedOut progress request) := by
  cases request with
  | call call =>
      have done := Checked.supplied_perform call faithful
      refine ⟨?_, done.size_le, ?_⟩
      · rw [Checked.serve, Checked.ask_eq call faithful]
        rfl
      · rw [Document.handedOut]
        split
        next answer answered => exact done.registers answer answered
        next => exact fun _ member => by cases member
  | operation entry =>
      have supplies : Checked.Supplies document [] _ _ _ := Checked.supplies_convertOperation entry
      rcases supplies progress faithful (fun _ member => by cases member) with ⟨same, done⟩
      refine ⟨?_, done.size_le, ?_⟩
      · rw [Checked.serve, same]
        rfl
      · rw [Document.handedOut]
        split
        next handler converted => exact done.registers handler converted
        next => exact fun _ member => by cases member

/-- What was handed out once stays registered, whatever is asked for later. -/
theorem serveAll_spec (requests : List Request) (faithful : progress.registry.Faithful document) :
    Checked.serveAll document progress requests = some (document.serveAll progress requests) ∧
      progress.registry.size ≤ (document.serveAll progress requests).registry.size ∧
      (document.serveAll progress requests).registry.Registers
        (document.handedOutByAll progress requests) := by
  induction requests generalizing progress with
  | nil => exact ⟨rfl, Nat.le_refl _, fun _ member => by cases member⟩
  | cons request requests induction =>
      rcases serve_spec request faithful with ⟨succeeds, grown, registers⟩
      rcases induction (faithful_serve request faithful) with ⟨later, further, others⟩
      refine ⟨?_, Nat.le_trans grown further, ?_⟩
      · rw [Checked.serveAll, succeeds, Option.bind_some, later]
        rfl
      · intro target member
        rcases List.mem_append.mp member with now | after
        · exact Nat.lt_of_lt_of_le (registers target now) further
        · exact others target after

end Requests

end ApiGraph
