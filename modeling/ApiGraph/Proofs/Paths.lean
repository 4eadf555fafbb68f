import ApiGraph.Proofs.Conversion.Frozen
import ApiGraph.Proofs.Statistics

namespace ApiGraph

/-! # What paths have no part in

Operations only ever find types, so a document without its paths has the same types. That its
components are converted alike is said of scripts, since these do not depend on a bound for what they
ask for: a call comes to the same at every depth, and at some depth it has come to its end in both
documents. -/

open Registry

/-- A document of which only the components are left. -/
def Document.withoutPaths (document : Document) : Document := { document with paths := [] }

section Scripts

variable {document : Document} {registry : Registry} {progress : Progress}

/-! ## Chains

The end of a chain of references comes with a proof about its document. What a script makes of it is
a type or a name. -/

def ChainEnd.target : ChainEnd document registry → TypeId ⊕ String
  | .registered id => .inl id
  | .concrete name _ _ _ => .inr name

def chainTarget (document : Document) (registry : Registry) (last : String)
    (earlier : List String) (path : String) :
    Except BuildError (List String × (TypeId ⊕ String)) :=
  (followChain document registry last earlier path).map fun (chain, last) => (chain, last.target)

theorem chainTarget_withoutPaths (last : String) (earlier : List String) (path : String) :
    chainTarget document.withoutPaths registry last earlier path =
      chainTarget document registry last earlier path := by
  rw [chainTarget, chainTarget]
  cases found : document.target? path with
  | none =>
      have bare : document.withoutPaths.target? path = none := found
      rw [followChain, followChain, found, bare]
      rfl
  | some component =>
      rcases component with ⟨target, known⟩
      have bare : document.withoutPaths.target? path = some ⟨target, known⟩ := found
      cases bound : registry.lookup? target with
      | some id =>
          rw [followChain_of_registered found bound, followChain_of_registered bare bound]
          rfl
      | none =>
          cases declared : document.schema? target with
          | none =>
              rw [declared] at known
              cases known
          | some slot =>
              cases slot with
              | inline schema =>
                  rw [followChain_of_concrete found bound declared,
                    followChain_of_concrete bare bound declared]
                  rfl
              | reference next =>
                  rw [followChain_of_reference found bound declared,
                    followChain_of_reference bare bound declared]
                  by_cases repeated : target ∈ last :: earlier
                  · rw [if_pos repeated, if_pos repeated]
                    rfl
                  · rw [if_neg repeated, if_neg repeated]
                    exact chainTarget_withoutPaths target (last :: earlier) next
termination_by document.offChain (last :: earlier)
decreasing_by exact Document.offChain_cons_lt known repeated

/-! ## Calls -/

theorem Call.namedScript_withoutPaths (name : String) :
    namedScript document.withoutPaths name progress = namedScript document name progress := by
  have same : document.withoutPaths.schema? name = document.schema? name := rfl
  rw [namedScript, namedScript, same]
  split
  next => rfl
  next =>
    split
    next => rfl
    next => rfl
    next path _ =>
      have ends := @chainTarget_withoutPaths document progress.registry name [] path
      rw [chainTarget, chainTarget] at ends
      generalize followChain document.withoutPaths progress.registry name [] path = bare at ends ⊢
      generalize followChain document progress.registry name [] path = full at ends ⊢
      rcases bare with error | ⟨chain, _ | _⟩ <;> rcases full with error | ⟨chain, _ | _⟩ <;>
        cases ends <;> rfl

theorem Document.summaryOf_withoutPaths (slot : SchemaSlot) :
    document.withoutPaths.summaryOf slot = document.summaryOf slot := by
  have within (steps : Nat) (slot : SchemaSlot) :
      document.withoutPaths.summaryWithin steps slot = document.summaryWithin steps slot := by
    induction steps generalizing slot with
    | zero => rfl
    | succ steps induction =>
        cases slot with
        | inline schema => rfl
        | reference path =>
            have same : document.withoutPaths.definition? path = document.definition? path := rfl
            simp only [summaryWithin, same, induction]
  exact within _ slot

theorem Call.fieldsScript_withoutPaths (schema : Schema) (location : String)
    (properties : Entries SchemaSlot) :
    fieldsScript document.withoutPaths schema location properties progress =
      fieldsScript document schema location properties progress := by
  induction properties generalizing progress with
  | nil => rfl
  | cons entry rest induction =>
      simp only [fieldsScript, Document.summaryOf_withoutPaths, induction]

theorem Call.script_withoutPaths (call : Call) :
    call.script document.withoutPaths progress = call.script document progress := by
  cases call with
  | components => rfl
  | named name => exact namedScript_withoutPaths name
  | reference path location =>
      have same : document.withoutPaths.target? path = document.target? path := rfl
      rw [script, script, referenceScript, referenceScript, same]
      cases document.target? path <;> rfl
  | type slot location => rfl
  | walk schema location => simp only [script, shapeScript, fieldsScript_withoutPaths]

theorem Call.performWithin_withoutPaths (depth : Nat) (call : Call) (progress : Progress) :
    call.performWithin document.withoutPaths depth progress =
      call.performWithin document depth progress := by
  induction depth generalizing call progress with
  | zero => rfl
  | succ depth induction =>
      have answers : (fun call progress => performWithin document.withoutPaths depth call progress) =
          fun call progress => performWithin document depth call progress := by
        funext call progress
        exact induction call progress
      rw [performWithin, performWithin, script_withoutPaths]
      exact congrArg (fun answers => (call.script document progress).run? answers) answers

theorem Call.perform_withoutPaths (call : Call) (progress : Progress) :
    call.perform document.withoutPaths progress = call.perform document progress := by
  rcases @exists_performWithin document ⟨call, progress⟩ with ⟨first, full⟩
  rcases @exists_performWithin document.withoutPaths ⟨call, progress⟩ with ⟨second, bare⟩
  have whole := performWithin_mono (Nat.le_max_left first second) full
  have part := performWithin_mono (Nat.le_max_right first second) bare
  rw [performWithin_withoutPaths, whole] at part
  exact (Option.some.inj part).symm

end Scripts

/-! ## Builds -/

section Builds

variable {document : Document} {config : Config} {result : Build}

theorem outcome_convertComponents_withoutPaths :
    (convertComponents document.withoutPaths {}).outcome =
      (convertComponents document {}).outcome :=
  Call.perform_withoutPaths .components {}

/-- Without paths the conversion of a document is over after its components. -/
theorem run_convertDocument_withoutPaths (fallback : String)
    (converted : (convertComponents document {}).value = .ok ()) :
    (convertDocument document.withoutPaths fallback).run {} =
      (.ok .empty, (convertComponents document {}).state) := by
  have outcome : (Converting.ofStep (convertComponents document.withoutPaths)).run {} =
      (convertComponents document {}).outcome := outcome_convertComponents_withoutPaths
  rw [convertDocument_eq, Converting.run_bind, outcome, Conversion.outcome, converted]
  rfl

/-- The types of a build, their order and their cycles are those of the components. -/
theorem build_withoutPaths (built : build document config = .ok result) (other : Config) :
    ∃ bare, build document.withoutPaths other = .ok bare ∧
      bare.registry.withoutModules = result.registry.withoutModules ∧
      bare.order = result.order ∧ bare.statistics.cycles = result.statistics.cycles := by
  rcases exists_arises built with ⟨progress, grouped, arises⟩
  rcases arises_of_converts (run_convertDocument_withoutPaths other.fallbackModule
    arises.converted.components) with ⟨bare, rebuilt, rises⟩
  have same := arises.converted.registry
  rcases arises.exists_statistics with ⟨_, _, _, _, _, _, _, _, full⟩
  rcases rises.exists_statistics with ⟨_, _, _, _, _, _, _, _, less⟩
  refine ⟨bare, rebuilt, ?_, ?_, ?_⟩
  · rw [rises.types, arises.types, same]
  · rw [rises.order, arises.order, same]
  · rw [less, full, same]

end Builds

/-- After the components have been converted the registry does not change any more: whatever a
converter is asked for from then on, whether that is declared anywhere or not and whether it succeeds
or fails, only the numbers of inline types and of handlers and the list of the warnings can grow.
This holds whatever had been asked for before. So a document that can be built can be built without
its paths, under any configuration, and then has the same types but for their modules, in the same
order and with the same cycles. -/
theorem registry_frozen (document : Document) :
    (∀ earlier : List Request,
      let before := document.serveAll {} earlier
      let settled := (convertComponents document before).state
      (convertComponents document before).value = .ok () → ∀ requests : List Request,
        let after := document.serveAll settled requests
        after.registry = settled.registry ∧
          ∃ inline handlers warnings, after.statistics = { settled.statistics with
            anonymousTypes := settled.statistics.anonymousTypes + inline
            handlersConverted := settled.statistics.handlersConverted + handlers
            warnings := settled.statistics.warnings ++ warnings }) ∧
    ∀ config result, build document config = .ok result → ∀ other, ∃ bare,
      build document.withoutPaths other = .ok bare ∧
        bare.registry.withoutModules = result.registry.withoutModules ∧
        bare.order = result.order ∧ bare.statistics.cycles = result.statistics.cycles := by
  constructor
  · intro earlier before settled converted requests after
    have faithful : before.registry.Faithful document :=
      faithful_serveAll earlier (faithful_empty document)
    have covers := covers_convertComponents faithful converted
    have counts : settled.OnlyCounts after := onlyCounts_serveAll covers requests
    rcases counts with ⟨total, counted⟩
    rw [counted]
    exact ⟨rfl, total.anonymousTypes, total.handlers, total.warnings, rfl⟩
  · intro config result built other
    exact build_withoutPaths built other

/-- The shop that nobody can build: asked for its components again, a converter finds all of them,
though two types are open. The pet shop does not need its operation. -/
theorem registry_frozen_shops :
    let before := Document.brokenShop.serveAll {} [.call .components]
    let settled := (convertComponents .brokenShop before).state
    (convertComponents .brokenShop before).value = .ok () ∧ settled.registry.pending = [0, 2] ∧
      (∀ request, (Document.brokenShop.serveAll settled [request]).registry = settled.registry) ∧
      ∃ result bare, build .openPetShop .petShop = .ok result ∧
        build Document.openPetShop.withoutPaths {} = .ok bare ∧ bare.order = result.order := by
  -- As calls the conversions are evaluated one after the other.
  have converted : (Call.components.perform .brokenShop
      (Document.brokenShop.serveAll {} [.call .components])).1 = .ok () := by cbv
  have broken : (Document.brokenShop.serveAll {}
      [.call .components, .call .components]).registry.pending = [0, 2] := by cbv
  refine ⟨converted, broken, ?_, ?_⟩
  · intro request
    exact ((registry_frozen .brokenShop).1 _ converted [request]).1
  · rcases openPetShop_builds with ⟨result, built⟩
    rcases (registry_frozen .openPetShop).2 _ result built {} with ⟨bare, rebuilt, _, order, _⟩
    exact ⟨result, bare, built, rebuilt, order⟩

end ApiGraph
