import ApiGraph.Proofs.Redirection.Document
import Mathlib

namespace ApiGraph

/-! # Conversions in lockstep

A component may be met by its own name or by another one. The chain of references is followed first
and its names are bound afterwards, but the definition at the end is walked all the same, if it has
not been met before. So where two documents differ in how references are written, their conversions
register types of the same names in the same order and give the same warnings in the same order. -/

open Conversion Registry

/-- Two states with types of the same names and the same warnings, all in the same order. -/
structure Progress.Level (progress moved : Progress) : Prop where
  names : moved.registry.names = progress.registry.names
  warnings : moved.statistics.warnings = progress.statistics.warnings

namespace Progress.Level

variable {progress moved last : Progress}

theorem refl (progress : Progress) : progress.Level progress := ⟨rfl, rfl⟩

theorem symm (level : progress.Level moved) : moved.Level progress :=
  ⟨level.names.symm, level.warnings.symm⟩

theorem trans (level : progress.Level moved) (next : moved.Level last) : progress.Level last :=
  ⟨next.names.trans level.names, next.warnings.trans level.warnings⟩

theorem warn (level : progress.Level moved) (warning : Warning) :
    (progress.warn warning).Level (moved.warn warning) :=
  ⟨level.names, congrArg (· ++ [warning]) level.warnings⟩

theorem begin {name : String} (level : progress.Level moved) (fresh : progress.isBound name = false)
    (refresh : moved.isBound name = false) : (progress.begin name).Level (moved.begin name) := by
  have charges := Progress.charges_begin fresh
  have recharges := Progress.charges_begin refresh
  refine ⟨?_, ?_⟩
  · rw [charges.names, recharges.names, level.names]
  · rw [charges.statistics, recharges.statistics]
    exact congrArg (· ++ []) level.warnings

theorem of_charges {aliases : Nat} (charges : progress.Charges moved [] aliases {}) :
    progress.Level moved := by
  refine ⟨?_, ?_⟩
  · rw [charges.names, List.append_nil]
  · rw [charges.statistics]
    exact List.append_nil _

end Progress.Level

/-! ## One conversion

Whether a component is walked depends on the definition at the end of its chain only. -/

section Single

variable {document : Document} {start : Progress} {name last : String} {schema : Schema}

theorem Registry.Faithful.mem_names_of_leads {registry : Registry} {id : TypeId}
    (faithful : registry.Faithful document) (bound : registry.lookup? name = some id)
    (leads : document.LeadsTo name last schema) : last ∈ registry.names := by
  rcases faithful.leads bound with ⟨node, other, found, also⟩
  rw [(leads.unique also).1]
  exact List.mem_map_of_mem (List.mem_of_getElem? found)

theorem Registry.Faithful.isBound_of_mem_names {registry : Registry}
    (faithful : registry.Faithful document) (member : last ∈ registry.names) :
    registry.isBound last = true := by
  rcases List.mem_map.mp member with ⟨node, inside, rfl⟩
  rcases List.mem_iff_getElem?.mp inside with ⟨id, found⟩
  rw [isBound, faithful.named found]
  rfl

/-- The definition at the end of a chain, as it is converted when it is first met. -/
abbrev convertFirst (document : Document) (start : Progress) (last : String) (schema : Schema)
    (declared : document.schema? last = some (.inline schema))
    (fresh : start.isBound last = false) : Conversion document start TypeId :=
  convertConcrete (fun progress _ name => convertNamed document progress name) last schema declared
    fresh

/-- A component whose definition has been met makes no difference. Otherwise the definition is
converted, and nothing besides. -/
def Meets (step : Conversion document start TypeId) (last : String) (schema : Schema) : Prop :=
  ∀ id, step.value = .ok id →
    last ∈ start.registry.names ∧ start.Level step.state ∨
      last ∉ start.registry.names ∧ ∃ declared fresh,
        Succeeds (convertFirst document start last schema declared fresh) ∧
          (convertFirst document start last schema declared fresh).state.Level step.state

theorem level_finishChain (progress : Progress) (chain : List String) (id : TypeId) :
    progress.Level (finishChain progress chain id : Conversion document progress TypeId).state := by
  rcases progress.charges_bindAliases id chain with ⟨aliases, charges⟩
  exact .of_charges charges

theorem level_andThen_finishChain {chain : List String} {id : TypeId}
    (step : Conversion document start TypeId)
    (success : (step.andThen fun progress _ id => finishChain progress chain id :
      Conversion document start TypeId).value = .ok id) :
    Succeeds step ∧ step.state.Level
      (step.andThen fun progress _ id => finishChain progress chain id :
        Conversion document start TypeId).state := by
  rcases step with ⟨value, state, within⟩
  cases value with
  | error error => cases success
  | ok made => exact ⟨⟨made, rfl⟩, @level_finishChain document state chain made⟩

theorem meets_convertNamed (faithful : start.registry.Faithful document)
    (leads : document.LeadsTo name last schema) :
    Meets (convertNamed document start name) last schema := by
  rw [convertNamed]
  split
  next id bound =>
    intro _ _
    exact .inl ⟨faithful.mem_names_of_leads bound leads, .refl start⟩
  next unbound =>
    split
    next =>
      intro id success
      cases success
    next concrete found =>
      rcases leads.last_eq found with ⟨rfl, rfl⟩
      have fresh : start.isBound name = false := isBound_eq_false unbound
      intro id success
      refine .inr ⟨?_, found, fresh, ⟨id, success⟩, .refl _⟩
      intro member
      rw [Progress.isBound, faithful.isBound_of_mem_names member] at fresh
      cases fresh
    next path reference =>
      split
      next =>
        intro id success
        cases success
      next chain id followed =>
        rcases followChain_spec reference (by simp) followed with ⟨kept, target, bound, joined⟩
        rcases faithful.leads bound with ⟨node, definition, found, ends⟩
        have also := joined name (kept name List.mem_cons_self) node.name definition ends
        rw [(leads.unique also).1]
        intro _ _
        refine .inl ⟨?_, level_finishChain start chain id⟩
        exact List.mem_map_of_mem (List.mem_of_getElem? found)
      next chain target definition declared fresh followed =>
        rcases followChain_spec reference (by simp) followed with ⟨kept, other, same, joined⟩
        cases same
        have also := joined name (kept name List.mem_cons_self) target definition (.here declared)
        rcases leads.unique also with ⟨rfl, rfl⟩
        intro id success
        have absent : last ∉ start.registry.names := by
          intro member
          rw [faithful.isBound_of_mem_names member] at fresh
          cases fresh
        exact .inr ⟨absent, declared, fresh, level_andThen_finishChain _ success⟩

/-- A component that can be converted leads to a definition. -/
theorem exists_leads_of_convertNamed (faithful : start.registry.Faithful document) {id : TypeId}
    (success : (convertNamed document start name).value = .ok id) :
    ∃ last schema, document.LeadsTo name last schema := by
  have yields := yields_convertNamed document start name faithful
  rcases yields.faithful.leads (yields.means success) with ⟨node, schema, _, leads⟩
  exact ⟨node.name, schema, leads⟩

end Single

/-! ## Two conversions -/

section Two

variable {first second : Document}

/-- States of two conversions that are in step with each other. -/
structure InStep (first second : Document) (progress moved : Progress) : Prop where
  level : progress.Level moved
  faithful : progress.registry.Faithful first
  also : moved.registry.Faithful second

theorem InStep.warn {progress moved : Progress} (inStep : InStep first second progress moved)
    (warning : Warning) : InStep first second (progress.warn warning) (moved.warn warning) :=
  ⟨inStep.level.warn warning, inStep.faithful, inStep.also⟩

/-- Two steps that both succeed end in states that are in step. -/
def Lockstep {α β : Type} {start begun : Progress} (step : Conversion first start α)
    (other : Conversion second begun β) : Prop :=
  ∀ value result, step.value = .ok value → other.value = .ok result →
    InStep first second step.state other.state

namespace Lockstep

variable {α β γ δ : Type} {start begun : Progress} {step : Conversion first start α}
  {other : Conversion second begun β}

theorem mapOk (lockstep : Lockstep step other) {change : α → γ} {again : β → δ} :
    Lockstep (step.mapOk change : Conversion first start γ)
      (other.mapOk again : Conversion second begun δ) := by
  rcases step with ⟨value, state, within⟩
  rcases other with ⟨result, moved, inside⟩
  intro changed rechanged success also
  cases value with
  | error error => cases success
  | ok value =>
      cases result with
      | error error => cases also
      | ok result => exact lockstep value result rfl rfl

theorem andThen (lockstep : Lockstep step other)
    {next : (state : Progress) → unregistered first state ≤ unregistered first start → α →
      Conversion first state γ}
    {again : (state : Progress) → unregistered second state ≤ unregistered second begun → β →
      Conversion second state δ}
    (rest : ∀ state within value moved inside result, InStep first second state moved →
      Lockstep (next state within value) (again moved inside result)) :
    Lockstep (step.andThen next : Conversion first start γ)
      (other.andThen again : Conversion second begun δ) := by
  rcases step with ⟨value, state, within⟩
  rcases other with ⟨result, moved, inside⟩
  intro changed rechanged success also
  cases value with
  | error error => cases success
  | ok value =>
      cases result with
      | error error => cases also
      | ok result =>
          exact rest state within value moved inside result (lockstep value result rfl rfl) changed
            rechanged success also

end Lockstep

/-! ### Walks -/

section Walk

variable {base rebase : Progress} (resolve : Resolver first base)
  (reresolve : Resolver second rebase)

/-- Wherever two slots stand, they are walked in lockstep. -/
def WalkAlike (slot other : SchemaSlot) : Prop :=
  ∀ location progress within moved inside, InStep first second progress moved →
    Lockstep (convertSlot resolve slot location progress within)
      (convertSlot reresolve other location moved inside)

variable {resolve reresolve}

theorem lockstep_convertFields {schema again : Schema} {properties others : Entries SchemaSlot}
    (related : Entries.Rel (WalkAlike resolve reresolve) properties others)
    (parts : ∀ entry ∈ properties, sizeOf entry.2 < sizeOf schema)
    (others_ : ∀ entry ∈ others, sizeOf entry.2 < sizeOf again) (location : String)
    {progress moved : Progress} (within : unregistered first progress ≤ unregistered first base)
    (inside : unregistered second moved ≤ unregistered second rebase)
    (inStep : InStep first second progress moved) :
    Lockstep (convertFields resolve schema properties parts location progress within)
      (convertFields reresolve again others others_ location moved inside) := by
  induction related generalizing progress moved with
  | nil =>
      rw [convertFields, convertFields]
      intro _ _ _ _
      exact inStep
  | cons here _ induction =>
      rw [convertFields, convertFields]
      apply (here _ progress within moved inside inStep).andThen
      intro state below _ restate rebelow _ kept
      exact (induction _ _ _ _ kept).mapOk

theorem lockstep_convertShape {schema other : Schema}
    (related : Schema.Rel (WalkAlike resolve reresolve) schema other) (location : String)
    {progress moved : Progress} (within : unregistered first progress ≤ unregistered first base)
    (inside : unregistered second moved ≤ unregistered second rebase)
    (inStep : InStep first second progress moved) :
    Lockstep (convertShape resolve schema location progress within)
      (convertShape reresolve other location moved inside) := by
  have outlines := related.outline
  generalize outline : schema.outline = left at outlines
  generalize moves : other.outline = right at outlines
  cases outlines with
  | map here =>
      rw [convertShape_of_map outline, convertShape_of_map moves]
      exact (here _ progress within moved inside inStep).mapOk
  | object properties =>
      rw [convertShape_of_object outline, convertShape_of_object moves]
      exact (lockstep_convertFields properties _ _ location within inside inStep).mapOk
  | array elements =>
      cases elements with
      | none =>
          rw [convertShape_of_array_none outline]
          intro value result success
          cases success
      | some here =>
          rw [convertShape_of_array outline, convertShape_of_array moves]
          exact (here _ progress within moved inside inStep).mapOk
  | primitive primitive =>
      rw [convertShape_of_primitive outline, convertShape_of_primitive moves, convertPrimitive,
        convertPrimitive, related.enumWarning?_eq]
      intro _ _ _ _
      cases schema.enumWarning? location with
      | none => exact inStep
      | some warning => exact inStep.warn warning
  | untyped =>
      rw [convertShape_of_untyped outline, convertShape_of_untyped moves]
      intro _ _ _ _
      exact inStep
  | unsupported =>
      rw [convertShape_of_unsupported outline, convertShape_of_unsupported moves]
      intro _ _ _ _
      exact inStep.warn _

/-- References that are exchanged for each other are resolved in lockstep. -/
def ResolveAlike (resolve : Resolver first base) (reresolve : Resolver second rebase)
    (Same : String → String → Prop) : Prop :=
  ∀ path other, Same path other → ∀ location progress within moved inside,
    InStep first second progress moved →
      Lockstep (resolve progress within path location) (reresolve moved inside other location)

theorem walkAlike_of_redirects {Same : String → String → Prop} {slot other : SchemaSlot}
    (alike : ResolveAlike resolve reresolve Same) (redirects : Redirects Same slot other) :
    WalkAlike resolve reresolve slot other := by
  refine redirects.induction (motive := WalkAlike resolve reresolve) ?_ ?_
  · intro path other same location progress within moved inside inStep
    rw [convertSlot, convertSlot]
    exact (alike path other same location progress within moved inside inStep).mapOk
  · intro schema other related location progress within moved inside inStep
    rw [convertSlot, convertSlot]
    apply (lockstep_convertShape related location within inside inStep).andThen
    intro state _ shape restate _ reshape kept _ _ _ _
    exact ⟨⟨kept.level.names, kept.level.warnings⟩, kept.faithful, kept.also⟩

end Walk

/-! ### Components -/

section Components

variable {Same : String → String → Prop} (rewrites : first.Rewrites Same second)
  (respects : first.Respects Same) {start begun : Progress}

include rewrites

theorem Document.Rewrites.redirects_of_leads {name again last : String} {schema other : Schema}
    (leads : first.LeadsTo name last schema) (also : second.LeadsTo again last other) :
    Redirects Same (.inline schema) (.inline other) := by
  rcases rewrites.schemas.inline leads.declared with ⟨expected, declared, redirects⟩
  have given := also.declared
  rw [declared] at given
  cases given
  exact redirects

include respects

theorem Document.Rewrites.last_eq {path other name again last final : String}
    {schema definition : Schema} (same : Same path other)
    (target : Pointer.schema? path = some name) (retarget : Pointer.schema? other = some again)
    (leads : first.LeadsTo name last schema) (also : second.LeadsTo again final definition) :
    final = last := by
  have noted := respects path other same
  rw [← rewrites.noted?] at noted
  simp only [Document.noted?, Document.designated?_eq_some target leads,
    Document.designated?_eq_some retarget also, Option.map_some, Option.some.injEq,
    Prod.mk.injEq] at noted
  exact noted.1

omit rewrites respects in
theorem level_complete {start begun : Progress} {walked : Conversion first start (Shape TypeId)}
    {rewalked : Conversion second begun (Shape TypeId)} (lockstep : Lockstep walked rewalked)
    {finish : (progress : Progress) → unregistered first progress ≤ unregistered first start →
      Shape TypeId → Conversion first progress TypeId}
    {refinish : (progress : Progress) → unregistered second progress ≤ unregistered second begun →
      Shape TypeId → Conversion second progress TypeId}
    (finishes : ∀ (progress : Progress) within shape,
      progress.Level (finish progress within shape).state)
    (refinishes : ∀ (progress : Progress) within shape,
      progress.Level (refinish progress within shape).state)
    {id reid : TypeId}
    (success : (walked.andThen finish : Conversion first start TypeId).value = .ok id)
    (resuccess : (rewalked.andThen refinish : Conversion second begun TypeId).value = .ok reid) :
    (walked.andThen finish : Conversion first start TypeId).state.Level
      (rewalked.andThen refinish : Conversion second begun TypeId).state := by
  rcases walked with ⟨value, state, within⟩
  rcases rewalked with ⟨result, moved, inside⟩
  cases value with
  | error error => cases success
  | ok shape =>
      cases result with
      | error error => cases resuccess
      | ok reshape =>
          have level := (lockstep shape reshape rfl rfl).level
          exact ((finishes state within shape).symm.trans level).trans
            (refinishes moved inside reshape)

/-- Definitions that are met for the first time are walked in lockstep, if the components that they
refer to are converted in lockstep. -/
theorem level_convertFirst
    (converts : ∀ progress, unregistered first progress < unregistered first start →
      ∀ moved name again last schema other, InStep first second progress moved →
        first.LeadsTo name last schema → second.LeadsTo again last other →
          Lockstep (convertNamed first progress name) (convertNamed second moved again))
    {last : String} {schema other : Schema} (inStep : InStep first second start begun)
    (declared : first.schema? last = some (.inline schema))
    (redeclared : second.schema? last = some (.inline other))
    (fresh : start.isBound last = false) (refresh : begun.isBound last = false)
    (succeeds : Succeeds (convertFirst first start last schema declared fresh))
    (also : Succeeds (convertFirst second begun last other redeclared refresh)) :
    (convertFirst first start last schema declared fresh).state.Level
      (convertFirst second begun last other redeclared refresh).state := by
  have redirects : Redirects Same (.inline schema) (.inline other) :=
    rewrites.redirects_of_leads (.here declared) (.here redeclared)
  have begins : InStep first second (start.begin last) (begun.begin last) :=
    ⟨inStep.level.begin fresh refresh,
      inStep.faithful.reserve (lookup?_eq_none_iff.mpr fresh) declared,
      inStep.also.reserve (lookup?_eq_none_iff.mpr refresh) redeclared⟩
  rcases succeeds with ⟨id, success⟩
  rcases also with ⟨reid, resuccess⟩
  unfold convertFirst convertConcrete at success resuccess ⊢
  dsimp only at success resuccess ⊢
  refine level_complete ?_ ?_ ?_ success resuccess
  · apply lockstep_convertShape _ _ _ _ begins
    refine redirects.rel.imp (walkAlike_of_redirects ?_)
    intro path other same location progress within moved inside kept
    dsimp only
    split
    next =>
      intro value result success
      cases success
    next name known found =>
      split
      next =>
        intro value result _ resuccess
        cases resuccess
      next again reknown refound =>
        intro value result success resuccess
        rcases exists_leads_of_convertNamed kept.faithful success with ⟨final, definition, leads⟩
        rcases exists_leads_of_convertNamed kept.also resuccess with ⟨refinal, redefinition, ends⟩
        have equal := rewrites.last_eq respects same (Document.target?_eq_some found)
          (Document.target?_eq_some refound) leads ends
        subst equal
        exact converts progress (Nat.lt_of_le_of_lt within (unregistered_begin_lt declared fresh))
          moved name again refinal definition redefinition kept leads ends value result success
          resuccess
  · intro progress _ shape
    exact ⟨names_complete, rfl⟩
  · intro progress _ shape
    exact ⟨names_complete, rfl⟩

theorem lockstep_convertNamed (start begun : Progress) {name again last : String}
    {schema other : Schema} (inStep : InStep first second start begun)
    (leads : first.LeadsTo name last schema) (also : second.LeadsTo again last other) :
    Lockstep (convertNamed first start name) (convertNamed second begun again) := by
  have converts : ∀ progress, unregistered first progress < unregistered first start →
      ∀ moved name again last schema other, InStep first second progress moved →
        first.LeadsTo name last schema → second.LeadsTo again last other →
          Lockstep (convertNamed first progress name) (convertNamed second moved again) :=
    fun progress less moved name again last schema other inStep leads also =>
      lockstep_convertNamed progress moved inStep leads also
  intro id reid success resuccess
  refine ⟨?_, (yields_convertNamed first start name inStep.faithful).faithful,
    (yields_convertNamed second begun again inStep.also).faithful⟩
  have names := inStep.level.names
  rcases meets_convertNamed inStep.faithful leads id success with
    ⟨member, level⟩ | ⟨absent, declared, fresh, succeeds, level⟩
  · rcases meets_convertNamed inStep.also also reid resuccess with
      ⟨_, relevel⟩ | ⟨reabsent, _⟩
    · exact (level.symm.trans inStep.level).trans relevel
    · rw [names] at reabsent
      exact absurd member reabsent
  · rcases meets_convertNamed inStep.also also reid resuccess with
      ⟨remember, _⟩ | ⟨_, redeclared, refresh, resucceeds, relevel⟩
    · rw [names] at remember
      exact absurd remember absent
    · have walked := level_convertFirst rewrites respects converts inStep declared redeclared fresh
        refresh succeeds resucceeds
      exact (level.symm.trans walked).trans relevel
termination_by unregistered first start

theorem lockstep_convertEach (start begun : Progress) (names : List String)
    (inStep : InStep first second start begun) :
    Lockstep (convertEach first start names) (convertEach second begun names) := by
  induction names generalizing start begun with
  | nil =>
      rw [convertEach, convertEach]
      intro _ _ _ _
      exact inStep
  | cons name names induction =>
      have here : Lockstep (convertNamed first start name) (convertNamed second begun name) := by
        intro id reid success resuccess
        rcases exists_leads_of_convertNamed inStep.faithful success with ⟨last, schema, leads⟩
        rcases rewrites.schemas.leadsTo leads with ⟨other, also, _⟩
        exact lockstep_convertNamed rewrites respects start begun inStep leads also id reid success
          resuccess
      rw [convertEach, convertEach]
      apply here.andThen
      intro state _ _ restate _ _ kept
      exact induction state restate kept

/-- Where the components are declared in the same order, the types have the same names in the same
order, and the warnings are the same. -/
theorem level_convertComponents
    (names : Entries.names second.components.schemas = Entries.names first.components.schemas)
    (converted : (convertComponents first {}).value = .ok ())
    (reconverted : (convertComponents second {}).value = .ok ()) :
    (convertComponents first {}).state.Level (convertComponents second {}).state := by
  unfold convertComponents at converted reconverted ⊢
  rw [names] at reconverted ⊢
  exact (lockstep_convertEach rewrites respects {} {} _
    ⟨.refl _, faithful_empty first, faithful_empty second⟩ () () converted reconverted).level

end Components

end Two

end ApiGraph
