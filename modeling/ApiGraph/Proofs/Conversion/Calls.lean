import ApiGraph.Proofs.Conversion.Walk

namespace ApiGraph

/-! # Conversions that ask for each other

A conversion is known here by what it does itself and by what it has others do: its script ends with
a result, or asks for another conversion and goes on with the answer. Nothing in a script bounds how
long that goes on. The functions of the conversion are what the scripts come to. -/

/-- What a converter can be asked for, and the walk of a definition that is part of it. -/
inductive Call where
  | components
  | named (name : String)
  | reference (path location : String)
  | type (slot : SchemaSlot) (location : String)
  | walk (schema : Schema) (location : String)

abbrev Call.Answer : Call → Type
  | .components => Unit
  | .named _ => TypeId
  | .reference _ _ => TypeId
  | .type _ _ => TypeRef TypeId
  | .walk _ _ => Shape TypeId

/-- An answer or an error, and the state that is left behind. -/
abbrev Outcome (α : Type) := Except BuildError α × Progress

namespace Outcome

variable {α β : Type}

def andThen (outcome : Outcome α) (next : α → Progress → Outcome β) : Outcome β :=
  match outcome with
  | (.ok value, progress) => next value progress
  | (.error error, progress) => (.error error, progress)

/-- What comes of a success. -/
def whenOk {γ : Type} (outcome : Outcome α) (next : α → Progress → List γ) : List γ :=
  match outcome with
  | (.ok value, progress) => next value progress
  | (.error _, _) => []

def mapOk (change : α → β) (outcome : Outcome α) : Outcome β :=
  (outcome.1.map change, outcome.2)

theorem andThen_ok (outcome : Outcome α) (change : α → β) :
    (outcome.andThen fun value progress => (.ok (change value), progress)) =
      outcome.mapOk change := by
  rcases outcome with ⟨result, progress⟩
  cases result <;> rfl

theorem andThen_done (outcome : Outcome α) :
    (outcome.andThen fun value progress => (.ok value, progress)) = outcome := by
  rcases outcome with ⟨result, progress⟩
  cases result <;> rfl

end Outcome

/-! ## Scripts -/

inductive Script (α : Type) where
  | done (result : Except BuildError α) (progress : Progress)
  | ask (call : Call) (progress : Progress) (next : call.Answer → Progress → Script α)

/-- A conversion that is asked for in a state. -/
structure Frame where
  call : Call
  progress : Progress

/-- What is answered to every call. -/
abbrev Answers := (call : Call) → Progress → Outcome call.Answer

namespace Script

variable {α β : Type}

def map (change : α → β) : Script α → Script β
  | .done result progress => .done (result.map change) progress
  | .ask call progress next => .ask call progress fun value progress =>
      (next value progress).map change

/-- What a script comes to. An error that is answered ends it. -/
def run (answers : Answers) : Script α → Outcome α
  | .done result progress => (result, progress)
  | .ask call progress next => (answers call progress).andThen fun value progress =>
      (next value progress).run answers

/-- What a script asks for, in this order. -/
def asked (answers : Answers) : Script α → List Frame
  | .done _ _ => []
  | .ask call progress next =>
      ⟨call, progress⟩ :: (answers call progress).whenOk fun value progress =>
        (next value progress).asked answers

variable {answers : Answers}

theorem run_map (change : α → β) (script : Script α) :
    (script.map change).run answers = (script.run answers).mapOk change := by
  induction script with
  | done result progress => rfl
  | ask call progress next induction =>
      rw [map, run, run]
      rcases answers call progress with ⟨result, state⟩
      cases result with
      | error error => rfl
      | ok value => exact induction value state

theorem asked_map (change : α → β) (script : Script α) :
    (script.map change).asked answers = script.asked answers := by
  induction script with
  | done result progress => rfl
  | ask call progress next induction =>
      rw [map, asked, asked]
      rcases answers call progress with ⟨result, state⟩
      cases result with
      | error error => rfl
      | ok value => exact congrArg _ (induction value state)

end Script

/-! ## What every call does itself -/

namespace Call

variable (document : Document)

def eachScript : List String → Progress → Script Unit
  | [], progress => .done (.ok ()) progress
  | name :: names, progress => .ask (.named name) progress fun _ progress =>
      eachScript names progress

/-- A name that is not bound is the name of a definition, which is walked after the name has been
registered, or else another name for the end of a chain. -/
def namedScript (name : String) (progress : Progress) : Script TypeId :=
  match progress.registry.lookup? name with
  | some id => .done (.ok id) progress
  | none =>
      match document.schema? name with
      | none => .done (.error (.unresolvedReference name name)) progress
      | some (.inline schema) =>
          let id := progress.registry.size
          .ask (.walk schema name) (progress.begin name) fun shape progress =>
            .done (.ok id) (progress.complete id schema.summary? shape)
      | some (.reference path) =>
          match followChain document progress.registry name [] path with
          | .error error => .done (.error error) progress
          | .ok (chain, .registered id) => .done (.ok id) (progress.bindAliases id chain)
          | .ok (chain, .concrete target _ _ _) => .ask (.named target) progress fun id progress =>
              .done (.ok id) (progress.bindAliases id chain)

def referenceScript (path location : String) (progress : Progress) : Script TypeId :=
  match document.target? path with
  | none => .done (.error (.unresolvedReference path location)) progress
  | some ⟨name, _⟩ => .ask (.named name) progress fun id progress => .done (.ok id) progress

def slotScript (location : String) (progress : Progress) : SchemaSlot → Script (TypeRef TypeId)
  | .reference path => .ask (.reference path location) progress fun id progress =>
      .done (.ok (.named id)) progress
  | .inline schema => .ask (.walk schema location) progress fun shape progress =>
      .done (.ok (.inline shape)) progress.countAnonymousType

def fieldsScript (schema : Schema) (location : String) :
    Entries SchemaSlot → Progress → Script (List (TypeField TypeId))
  | [], progress => .done (.ok []) progress
  | (name, slot) :: rest, progress =>
      .ask (.type slot (location ++ "." ++ name)) progress fun type progress =>
        (fieldsScript schema location rest progress).map
          (⟨name, document.summaryOf slot, type, schema.isRequired name⟩ :: ·)

def shapeScript (schema : Schema) (location : String) (progress : Progress) :
    Script (Shape TypeId) :=
  match schema.outline with
  | .map value => .ask (.type value (location ++ "\x7b\x7d")) progress fun type progress =>
      .done (.ok (.map type)) progress
  | .object properties => (fieldsScript document schema location properties progress).map .object
  | .array (some items) => .ask (.type items (location ++ "[]")) progress fun type progress =>
      .done (.ok (.array type)) progress
  | .array none => .done (.error (.missingElementType location)) progress
  | .primitive primitive =>
      let shape := .primitive primitive schema.enumEntries
      match schema.enumWarning? location with
      | none => .done (.ok shape) progress
      | some warning => .done (.ok shape) (progress.warn warning)
  | .untyped => .done (.ok .unknown) progress
  | .unsupported => .done (.ok .unknown) (progress.warn (.unsupportedSchema location))

def script (progress : Progress) : (call : Call) → Script call.Answer
  | .components => eachScript (Entries.names document.components.schemas) progress
  | .named name => namedScript document name progress
  | .reference path location => referenceScript document path location progress
  | .type slot location => slotScript location progress slot
  | .walk schema location => shapeScript document schema location progress

end Call

/-! ## The functions of the conversion -/

def Conversion.outcome {document : Document} {start : Progress} {α : Type}
    (step : Conversion document start α) : Outcome α := (step.value, step.state)

theorem unregistered_le_self (document : Document) (progress : Progress) :
    unregistered document progress ≤ unregistered document progress := Nat.le_refl _

/-- The walk of a definition by itself. -/
def convertDefinition (document : Document) (progress : Progress) (schema : Schema)
    (location : String) : Conversion document progress (Shape TypeId) :=
  convertShape (fun progress _ path location => resolveReference document progress path location)
    schema location progress (unregistered_le_self document progress)

/-- What the conversion answers to a call. -/
def Call.perform (document : Document) : Answers
  | .components, progress => (convertComponents document progress).outcome
  | .named name, progress => (convertNamed document progress name).outcome
  | .reference path location, progress =>
      (resolveReference document progress path location).outcome
  | .type slot location, progress => (convertSchema document progress slot location).outcome
  | .walk schema location, progress =>
      (convertDefinition document progress schema location).outcome

namespace Conversion

variable {document : Document} {start : Progress} {α β : Type}

theorem outcome_mapOk {step : Conversion document start α} {change : α → β} :
    outcome (step.mapOk change : Conversion document start β) = step.outcome.mapOk change := rfl

theorem outcome_andThen {first : Conversion document start α}
    {next : (state : Progress) → unregistered document state ≤ unregistered document start → α →
      Conversion document state β} {after : α → Progress → Outcome β}
    (same : ∀ state within value, (next state within value).outcome = after value state) :
    outcome (first.andThen next : Conversion document start β) = first.outcome.andThen after := by
  rcases first with ⟨value, state, within⟩
  cases value with
  | error error => rfl
  | ok value => exact same state within value

end Conversion

/-! ### Walks

A walk does not depend on the state that its references are bounded by. -/

section Walk

variable {document : Document} {base rebase : Progress} {resolve : Resolver document base}
  {other : Resolver document rebase}

/-- Two resolvers that answer the same wherever both can be asked. -/
def Resolver.Agree (resolve : Resolver document base) (other : Resolver document rebase) : Prop :=
  ∀ progress within inside path location,
    resolve progress within path location = other progress inside path location

mutual

theorem convertSlot_rebase (agree : Resolver.Agree resolve other) (slot : SchemaSlot)
    (location : String) (progress : Progress)
    (within : unregistered document progress ≤ unregistered document base)
    (inside : unregistered document progress ≤ unregistered document rebase) :
    convertSlot resolve slot location progress within =
      convertSlot other slot location progress inside := by
  cases slot with
  | reference path => rw [convertSlot, convertSlot, agree progress within inside]
  | inline schema =>
      rw [convertSlot, convertSlot,
        convertShape_rebase agree schema location progress within inside]
termination_by (sizeOf slot, 0, 0)

theorem convertShape_rebase (agree : Resolver.Agree resolve other) (schema : Schema)
    (location : String) (progress : Progress)
    (within : unregistered document progress ≤ unregistered document base)
    (inside : unregistered document progress ≤ unregistered document rebase) :
    convertShape resolve schema location progress within =
      convertShape other schema location progress inside := by
  cases outline : schema.outline with
  | map value =>
      rw [convertShape_of_map outline, convertShape_of_map outline,
        convertSlot_rebase agree value _ progress within inside]
  | object properties =>
      rw [convertShape_of_object outline, convertShape_of_object outline,
        convertFields_rebase agree schema properties _ location progress within inside]
  | array items? =>
      cases items? with
      | none => rw [convertShape_of_array_none outline, convertShape_of_array_none outline]
      | some items =>
          rw [convertShape_of_array outline, convertShape_of_array outline,
            convertSlot_rebase agree items _ progress within inside]
  | primitive primitive =>
      rw [convertShape_of_primitive outline, convertShape_of_primitive outline]
  | untyped => rw [convertShape_of_untyped outline, convertShape_of_untyped outline]
  | unsupported => rw [convertShape_of_unsupported outline, convertShape_of_unsupported outline]
termination_by (sizeOf schema, 1, 0)
decreasing_by
  · exact Prod.Lex.left _ _ (Schema.sizeOf_lt_of_outline_eq_map ‹_›)
  · exact Prod.Lex.right _ (Prod.Lex.left _ _ Nat.zero_lt_one)
  · exact Prod.Lex.left _ _ (Schema.sizeOf_lt_of_outline_eq_array ‹_›)

theorem convertFields_rebase (agree : Resolver.Agree resolve other) (schema : Schema)
    (properties : Entries SchemaSlot)
    (parts : ∀ entry ∈ properties, sizeOf entry.2 < sizeOf schema) (location : String)
    (progress : Progress) (within : unregistered document progress ≤ unregistered document base)
    (inside : unregistered document progress ≤ unregistered document rebase) :
    convertFields resolve schema properties parts location progress within =
      convertFields other schema properties parts location progress inside := by
  match properties with
  | [] => rw [convertFields, convertFields]
  | (name, slot) :: rest =>
      rw [convertFields, convertFields, convertSlot_rebase agree slot _ progress within inside]
      congr 1
      funext state below type
      rw [convertFields_rebase agree schema rest _ location state _
        (Nat.le_trans below inside)]
termination_by (sizeOf schema, 0, properties.length)
decreasing_by
  · exact Prod.Lex.left _ _ (parts (name, slot) (.head _))
  · exact Prod.Lex.right _ (Prod.Lex.right _ (Nat.lt_succ_self _))

end

/-- References are resolved as the converter does it. -/
def Resolver.IsPlain (resolve : Resolver document base) : Prop :=
  ∀ progress within path location,
    resolve progress within path location = resolveReference document progress path location

theorem convertSlot_eq (plain : Resolver.IsPlain resolve) (slot : SchemaSlot) (location : String)
    {progress : Progress} (within : unregistered document progress ≤ unregistered document base) :
    convertSlot resolve slot location progress within =
      convertSchema document progress slot location :=
  convertSlot_rebase (fun progress within _ path location => plain progress within path location)
    slot location progress within _

theorem convertShape_eq (plain : Resolver.IsPlain resolve) (schema : Schema) (location : String)
    {progress : Progress} (within : unregistered document progress ≤ unregistered document base) :
    convertShape resolve schema location progress within =
      convertDefinition document progress schema location :=
  convertShape_rebase (fun progress within _ path location => plain progress within path location)
    schema location progress within _

end Walk

/-! ### Scripts -/

section Scripts

variable {document : Document} {progress : Progress}

theorem outcome_convertEach (names : List String) :
    (convertEach document progress names).outcome =
      (Call.eachScript names progress).run (Call.perform document) := by
  induction names generalizing progress with
  | nil =>
      rw [convertEach]
      rfl
  | cons name names induction =>
      rw [convertEach, Call.eachScript, Script.run, Call.perform]
      exact Conversion.outcome_andThen fun _ _ _ => induction

theorem outcome_resolveReference (path location : String) :
    (resolveReference document progress path location).outcome =
      (Call.referenceScript document path location progress).run (Call.perform document) := by
  unfold resolveReference Call.referenceScript
  cases document.target? path with
  | none => rfl
  | some target =>
      rcases target with ⟨name, known⟩
      exact (Outcome.andThen_done _).symm

theorem outcome_convertSchema (slot : SchemaSlot) (location : String) :
    (convertSchema document progress slot location).outcome =
      (Call.slotScript location progress slot).run (Call.perform document) := by
  rw [convertSchema]
  cases slot with
  | reference path =>
      rw [convertSlot, Call.slotScript, Script.run, Call.perform, Conversion.outcome_mapOk]
      exact (Outcome.andThen_ok _ TypeRef.named).symm
  | inline schema =>
      rw [convertSlot, Call.slotScript, Script.run, Call.perform]
      exact Conversion.outcome_andThen fun _ _ _ => rfl

theorem outcome_convertFields {base : Progress} {resolve : Resolver document base}
    (plain : Resolver.IsPlain resolve) (schema : Schema) (properties : Entries SchemaSlot)
    (parts : ∀ entry ∈ properties, sizeOf entry.2 < sizeOf schema) (location : String)
    (within : unregistered document progress ≤ unregistered document base) :
    (convertFields resolve schema properties parts location progress within).outcome =
      (Call.fieldsScript document schema location properties progress).run
        (Call.perform document) := by
  induction properties generalizing progress with
  | nil =>
      rw [convertFields]
      rfl
  | cons entry rest induction =>
      rcases entry with ⟨name, slot⟩
      rw [convertFields, convertSlot_eq plain, Call.fieldsScript, Script.run, Call.perform]
      refine Conversion.outcome_andThen fun state below type => ?_
      rw [Conversion.outcome_mapOk, Script.run_map, induction]

theorem outcome_convertDefinition (schema : Schema) (location : String) :
    (convertDefinition document progress schema location).outcome =
      (Call.shapeScript document schema location progress).run (Call.perform document) := by
  have plain : @Resolver.IsPlain document progress fun progress _ path location =>
      resolveReference document progress path location := fun _ _ _ _ => rfl
  rw [convertDefinition, Call.shapeScript]
  cases outline : schema.outline with
  | map value =>
      rw [convertShape_of_map outline, convertSlot_eq plain, Script.run, Call.perform,
        Conversion.outcome_mapOk]
      exact (Outcome.andThen_ok _ Shape.map).symm
  | object properties =>
      rw [convertShape_of_object outline, Script.run_map, ← outcome_convertFields plain]
      rfl
  | array items? =>
      cases items? with
      | none =>
          rw [convertShape_of_array_none outline]
          rfl
      | some items =>
          rw [convertShape_of_array outline, convertSlot_eq plain, Script.run, Call.perform,
            Conversion.outcome_mapOk]
          exact (Outcome.andThen_ok _ Shape.array).symm
  | primitive primitive =>
      rw [convertShape_of_primitive outline, convertPrimitive]
      cases schema.enumWarning? location <;> rfl
  | untyped =>
      rw [convertShape_of_untyped outline]
      rfl
  | unsupported =>
      rw [convertShape_of_unsupported outline]
      rfl

theorem outcome_convertConcrete {name : String} {schema : Schema}
    (declared : document.schema? name = some (.inline schema))
    (fresh : progress.isBound name = false) :
    (convertConcrete (fun progress _ name => convertNamed document progress name) name schema
        declared fresh).outcome =
      ((Call.walk schema name).perform document (progress.begin name)).andThen fun shape state =>
        (.ok progress.registry.size,
          state.complete progress.registry.size schema.summary? shape) := by
  have plain : @Resolver.IsPlain document (progress.begin name) fun progress _ path location =>
      match document.target? path with
      | none => .fail progress (.unresolvedReference path location)
      | some ⟨name, _⟩ => convertNamed document progress name := fun _ _ _ _ => rfl
  rw [Call.perform, ← convertShape_eq plain schema name (Nat.le_refl _)]
  unfold convertConcrete Conversion.outcome
  dsimp only
  generalize convertShape _ schema name (progress.begin name) _ = walked
  rcases walked with ⟨value, state, within⟩
  cases value <;> rfl

section Named

variable {name : String} (unbound : progress.registry.lookup? name = none)

theorem convertNamed_of_bound {id : TypeId} (bound : progress.registry.lookup? name = some id) :
    convertNamed document progress name = .pure progress (.ok id) := by
  rw [convertNamed]
  split <;> rename_i found <;> rw [bound] at found <;> cases found
  rfl

include unbound

theorem convertNamed_of_undeclared (undeclared : document.schema? name = none) :
    convertNamed document progress name =
      .fail progress (.unresolvedReference name name) := by
  rw [convertNamed]
  split <;> rename_i held <;> rw [unbound] at held <;> cases held
  split <;> rename_i found <;> rw [undeclared] at found <;> cases found

theorem convertNamed_of_inline {schema : Schema}
    (declared : document.schema? name = some (.inline schema))
    (fresh : progress.isBound name = false) :
    convertNamed document progress name =
      convertConcrete (fun progress _ name => convertNamed document progress name) name schema
        declared fresh := by
  rw [convertNamed]
  split <;> rename_i held <;> rw [unbound] at held <;> cases held
  split <;> rename_i found <;> rw [declared] at found <;> cases found
  rfl

theorem convertNamed_of_reference {path : String}
    (declared : document.schema? name = some (.reference path)) :
    convertNamed document progress name =
      match followChain document progress.registry name [] path with
      | .error error => .fail progress error
      | .ok (chain, .registered id) => finishChain progress chain id
      | .ok (chain, .concrete target schema declared fresh) =>
          (convertConcrete (fun progress _ name => convertNamed document progress name) target
            schema declared fresh).andThen fun progress _ id => finishChain progress chain id := by
  rw [convertNamed]
  split <;> rename_i held <;> rw [unbound] at held <;> cases held
  split <;> rename_i found <;> rw [declared] at found <;> cases found
  rfl

end Named

theorem outcome_convertNamed (name : String) :
    (convertNamed document progress name).outcome =
      (Call.namedScript document name progress).run (Call.perform document) := by
  rw [Call.namedScript]
  cases bound : progress.registry.lookup? name with
  | some id =>
      rw [convertNamed_of_bound bound]
      rfl
  | none =>
      cases declared : document.schema? name with
      | none =>
          rw [convertNamed_of_undeclared bound declared]
          rfl
      | some slot =>
          cases slot with
          | inline schema =>
              have fresh : progress.isBound name = false :=
                Registry.isBound_eq_false bound
              rw [convertNamed_of_inline bound declared fresh, outcome_convertConcrete]
              rfl
          | reference path =>
              rw [convertNamed_of_reference bound declared]
              dsimp only
              split
              next => rfl
              next => rfl
              next chain target schema given fresh followed =>
                -- The end of the chain is not bound, so its name is converted like any other.
                have unbound := Registry.lookup?_eq_none_iff.mpr fresh
                rw [Script.run, Call.perform, convertNamed_of_inline unbound given fresh]
                exact Conversion.outcome_andThen fun _ _ _ => rfl

theorem Call.perform_eq_run (call : Call) :
    call.perform document progress = (call.script document progress).run (perform document) := by
  cases call with
  | components => exact outcome_convertEach _
  | named name => exact outcome_convertNamed name
  | reference path location => exact outcome_resolveReference path location
  | type slot location => exact outcome_convertSchema slot location
  | walk schema location => exact outcome_convertDefinition schema location

end Scripts

end ApiGraph
