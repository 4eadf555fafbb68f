import ApiGraph.Proofs.Conversion.Lockstep
import Mathlib

namespace ApiGraph

/-! # References through other names

A component that is only a reference is another name for the definition that it leads to. Whether a
schema refers to the definition by its own name, by another one or by a chain of them cannot be told
from the report. -/

/-- Two references are the same, or lead to the same definition. -/
def Document.SameTarget (document : Document) (path other : String) : Prop :=
  path = other ∨ ∃ target, document.designated? path = some target ∧
    document.designated? other = some target

/-- The second document is the first one with other references to the same definitions inside
definitions, parameters and bodies. Components that are only references stay as they are. -/
structure Document.Retargets (first second : Document) : Prop where
  openapi : second.openapi = first.openapi
  info : second.info = first.info
  schemas : Entries.Rel (Referable.Rel fun schema other =>
      Redirects first.SameTarget (.inline schema) (.inline other))
    first.components.schemas second.components.schemas
  parameters : Entries.Rel (Referable.Rel (Parameter.Rel (Redirects first.SameTarget)))
    first.components.parameters second.components.parameters
  requestBodies : Entries.Rel (Referable.Rel (RequestBody.Rel (Redirects first.SameTarget)))
    first.components.requestBodies second.components.requestBodies
  responses : Entries.Rel (Referable.Rel (Response.Rel (Redirects first.SameTarget)))
    first.components.responses second.components.responses
  paths : Entries.Rel (PathItem.Rel (Redirects first.SameTarget)) first.paths second.paths

theorem Document.respects_sameTarget (document : Document) :
    document.Respects document.SameTarget := by
  intro path other same
  rcases same with rfl | ⟨target, here, there⟩
  · rfl
  · rw [noted?, noted?, here, there]

namespace Document.Retargets

variable {first second : Document} (retargets : first.Retargets second)

include retargets

theorem rewrites : first.Rewrites first.SameTarget second where
  info := retargets.info
  declared name := by rw [retargets.schemas.names_eq]
  schemas := retargets.schemas.value?
  parameters := retargets.parameters.value?
  requestBodies := retargets.requestBodies.value?
  responses := retargets.responses.value?

theorem operations :
    List.Forall₂ (OperationEntry.Rel (Redirects first.SameTarget))
      first.operations second.operations := by
  have paths := retargets.paths
  rw [Document.operations, Document.operations]
  generalize first.paths = entries at paths
  generalize second.paths = others at paths
  induction paths with
  | nil => exact .nil
  | @cons name _ _ _ _ here _ induction =>
      rw [List.flatMap_cons, List.flatMap_cons]
      exact List.rel_append (here.entries name) induction

theorem corresponds {config : Config} {before : Build} (built : build first config = .ok before) :
    first.Corresponds second first.operations :=
  retargets.rewrites.corresponds first.respects_sameTarget (.refl _) retargets.operations built

/-- The warnings of the two conversions are the same, and in the same order. -/
theorem warnings_eq {fallback : String} {grouped regrouped : ModuleMap} {progress moved : Progress}
    (converted : Converted first fallback grouped progress)
    (also : Converted second fallback regrouped moved)
    (corresponds : first.Corresponds second first.operations) :
    moved.statistics.warnings = progress.statistics.warnings := by
  have components := level_convertComponents retargets.rewrites first.respects_sameTarget
    retargets.schemas.names_eq converted.components also.components
  rw [converted.statistics, also.statistics, corresponds.operationTally_eq]
  simp only [Statistics.charge, components.warnings]

end Document.Retargets

/-- Whatever can be built can be built with other references to the same definitions, and the report
is the same. -/
theorem build_retargeted {first second : Document} (retargets : first.Retargets second)
    {config : Config} {before : Build} (built : build first config = .ok before) :
    ∃ after, build second config = .ok after ∧ after.report = before.report := by
  have corresponds := retargets.corresponds built
  rcases corresponds.builds built with ⟨after, rebuilt⟩
  rcases exists_arises built with ⟨progress, grouped, arises⟩
  rcases exists_arises rebuilt with ⟨moved, regrouped, rises⟩
  have renumbers := corresponds.renumbers arises rises
  have warnings : after.report.statistics.warnings = before.report.statistics.warnings := by
    have converted := retargets.warnings_eq arises.converted rises.converted corresponds
    rw [Build.report, Build.report, arises.warnings_eq, rises.warnings_eq, converted,
      renumbers.registry.unknownTypes]
  refine ⟨after, rebuilt, renumbers.report_eq.trans ?_⟩
  rw [corresponds.report_modules_eq arises rises, warnings]
  rfl

/-- The pet shop in which pets and the operation refer to owners by their own name, in another
spelling. -/
def Document.plainPetShop : Document where
  components := { schemas := [
    ("Pet", .inline {
      type := some (.single .object)
      title := some "A pet"
      properties := [
        ("keeper", .reference "#/definitions/Owner"),
        ("sizes", .inline {
          type := some (.single .array)
          items := some (.reference "#/components/schemas/Size") })]
      required := ["keeper"] }),
    ("Keeper", .reference "#/components/schemas/Owner"),
    ("Owner", .inline {
      additionalProperties := some (.schema (.reference "#/components/schemas/Pet")) }),
    ("Size", .inline {
      enumValues := [.string "big", .string "small"]
      enumNames := some ["Big", "Small"] })] }
  paths := [("/pets", {
    operation? := fun method =>
      if method = .get then some {
        tags := ["pets"]
        responses := [("200", .inline {
          content := [("application/json", some (.reference "#/definitions/Owner"))] })] }
      else none })]

theorem Document.sameTarget_keeper :
    openPetShop.SameTarget "#/components/schemas/Keeper" "#/definitions/Owner" := by
  have owner : openPetShop.LeadsTo "Owner" "Owner" {
      additionalProperties := some (.schema (.reference "#/components/schemas/Pet")) } := .here rfl
  have keeper : openPetShop.LeadsTo "Keeper" "Owner" _ := .onward rfl (by decide +kernel) owner
  exact .inr ⟨_, designated?_eq_some (by decide +kernel) keeper,
    designated?_eq_some (by decide +kernel) owner⟩

theorem Document.retargets_plainPetShop : openPetShop.Retargets plainPetShop where
  openapi := rfl
  info := rfl
  schemas := by
    have same : ∀ slot, Redirects openPetShop.SameTarget slot slot := .refl fun _ => .inl rfl
    refine .cons (.inline (.inline ?_ .none .none)) ?_
    · exact .cons (.reference sameTarget_keeper) (.cons (same _) .nil)
    · exact .cons (.reference _) (.cons (.inline (same _)) (.cons (.inline (same _)) .nil))
  parameters := .nil
  requestBodies := .nil
  responses := .nil
  paths := by
    refine .cons ⟨.nil, ?_⟩ .nil
    intro method
    by_cases get : method = .get
    · subst get
      have slot : Redirects openPetShop.SameTarget (.reference "#/components/schemas/Keeper")
          (.reference "#/definitions/Owner") :=
        .reference sameTarget_keeper
      exact .some (.intro .nil .none (.cons (.inline (.intro (.cons (.some slot) .nil))) .nil))
    · simp only [get, if_false]
      exact .none

theorem build_retargeted_plainPetShop :
    Document.openPetShop.Retargets .plainPetShop ∧
      ∃ before after, build .openPetShop .petShop = .ok before ∧
        build .plainPetShop .petShop = .ok after ∧ after.report = before.report := by
  rcases openPetShop_builds with ⟨before, built⟩
  rcases build_retargeted Document.retargets_plainPetShop built with ⟨after, rebuilt, same⟩
  exact ⟨Document.retargets_plainPetShop, before, after, built, rebuilt, same⟩

end ApiGraph
