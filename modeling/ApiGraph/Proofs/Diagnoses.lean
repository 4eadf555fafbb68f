import ApiGraph.Proofs.Conversion.Diagnosis
import ApiGraph.Proofs.Modules

namespace ApiGraph

/-! # The warnings of a build

A build walks the definition of every component once, whoever refers to it first and however many
do, and the schemas in the places of its operations. So its warnings are known from the document:
they are what there is to tell of each of these by itself. -/

/-- The definitions of the components come to what is told of them, in some order. -/
theorem Registry.Complete.warnings_perm {document : Document} {registry : Registry}
    (complete : registry.Complete document) :
    (document.componentTally registry.names).warnings.Perm
      (document.definitions.flatMap fun (name, schema) => schema.diagnoses name) := by
  have names : registry.names.Perm (Entries.names document.definitions) := by
    apply (List.perm_ext_iff_of_nodup complete.faithful.indexed.nodup_names
      document.nodup_definitions).mpr
    intro name
    rw [complete.mem_names_iff, Entries.names, List.mem_map]
    constructor
    · intro declared
      rcases declared with ⟨schema, declared⟩
      exact ⟨(name, schema), document.mem_definitions_iff.mpr declared, rfl⟩
    · intro listed
      rcases listed with ⟨⟨_, schema⟩, member, rfl⟩
      exact ⟨schema, document.mem_definitions_iff.mp member⟩
  refine (document.componentTally_perm names).warnings.trans (.of_eq ?_)
  rw [Document.componentTally, Tally.warnings_sum, Entries.names, List.flatMap_map]
  apply List.flatMap_congr
  intro entry member
  rcases entry with ⟨name, schema⟩
  rw [Document.definitionTally, document.mem_definitions_iff.mp member]
  exact warnings_shapeTally schema name

namespace Build.Arises

variable {document : Document} {config : Config} {progress : Progress} {grouped : ModuleMap}
  {result : Build} (arises : result.Arises document config progress grouped)

include arises

/-- The warnings that are not about the configuration are those of the conversion. -/
theorem filter_warnings :
    (result.statistics.warnings.filter fun warning => !warning.isConfigured) =
      progress.statistics.warnings := by
  have own : (progress.statistics.warnings.filter fun warning => !warning.isConfigured) =
      progress.statistics.warnings := by
    apply List.filter_eq_self.mpr
    intro warning member
    rw [arises.unconfigured warning member, Bool.not_false]
  have others : ((config.unknownTypes result.registry).filter fun warning =>
      !warning.isConfigured) = [] := by
    apply List.filter_eq_nil_iff.mpr
    intro warning member
    rcases List.mem_map.mp member with ⟨entry, _, rfl⟩
    simp [Warning.isConfigured]
  rw [arises.warnings_eq, List.filter_append, own, others, List.append_nil]

theorem warnings_perm :
    progress.statistics.warnings.Perm
      (document.definitions.flatMap (fun (name, schema) => schema.diagnoses name) ++
        document.operations.flatMap document.operationDiagnoses) := by
  rcases arises.converted.exists_total with ⟨aliases, total, _, alike, charged⟩
  have operations : (Tally.sum (document.operations.map document.operationTally)).warnings =
      document.operations.flatMap document.operationDiagnoses := by
    simp only [Tally.warnings_sum, Document.warnings_operationTally]
  rw [charged]
  dsimp only [Statistics.charge]
  rw [List.nil_append, Tally.warnings_append, operations]
  exact (alike.warnings.trans arises.converted.complete.warnings_perm).append_right _

end Build.Arises

/-- A build tells of every definition once, whatever refers to it: its warnings about definitions and
operations are, in some order, what is told of the definitions among the components, each walked
under its name, and of the parts that all operations take. A walk tells that a definition has no shape
exactly when it is shapeless, and that it has names for its values that do not match exactly when it
is one of a single value and the numbers of values and names differ. -/
theorem build_diagnoses {document : Document} {config : Config} {result : Build}
    (built : build document config = .ok result) :
    (result.statistics.warnings.filter fun warning => !warning.isConfigured).Perm
        (document.definitions.flatMap (fun (name, schema) => schema.diagnoses name) ++
          document.operations.flatMap document.operationDiagnoses) ∧
      ((Entries.names document.definitions).Nodup ∧
        ∀ name schema, (name, schema) ∈ document.definitions ↔
          document.schema? name = some (.inline schema)) ∧
      (∀ entry ∈ document.operations, ∃ parts, document.Takes entry parts ∧
        document.operationDiagnoses entry = parts.diagnoses entry.handlerName) ∧
      ∀ (schema : Schema) (location place : String),
        (schema.diagnosis? location = some (.unsupportedSchema place) ↔
          place = location ∧ schema.IsShapeless) ∧
        ∀ values names,
          schema.diagnosis? location = some (.invalidEnumMetadata place values names) ↔
            place = location ∧ schema.IsPrimitive ∧ values = schema.enumValues.length ∧
              names ≠ values ∧ ∃ list, schema.enumNames = some list ∧ list.length = names := by
  rcases exists_arises built with ⟨progress, grouped, arises⟩
  rcases arises.converted.handled with ⟨handled, handles, _⟩
  refine ⟨?_, ⟨document.nodup_definitions, ?_⟩, ?_, ?_⟩
  · rw [arises.filter_warnings]
    exact arises.warnings_perm
  · intro name schema
    exact document.mem_definitions_iff
  · intro entry member
    rw [← handles.entries] at member
    rcases List.mem_map.mp member with ⟨pair, inside, rfl⟩
    rcases Document.exists_parts_of_translates (handles.translates pair inside).translated with
      ⟨parts, _, taken, _⟩
    exact ⟨parts, Document.takes_iff.mpr taken, by rw [Document.operationDiagnoses, taken]⟩
  · intro schema location place
    exact ⟨Schema.diagnosis?_eq_unsupported_iff, fun _ _ => Schema.diagnosis?_eq_invalidEnum_iff⟩

/-- A shop that says little of what it sells, and refers to some of it more than once. Its operation
succeeds with the second of its responses, so nothing is told of the first. -/
def Document.vagueShop : Document where
  paths := [("/pets", {
    parameters := [.inline { name := "tag", location := .query }]
    operation? := fun method =>
      if method = .post then some {
        requestBody := some (.inline {
          content := [
            ("text/plain", none),
            ("application/json", some (.inline { properties := [
              ("size", .reference "#/components/schemas/Size"),
              ("photo", .inline { type := some (.single .unknown) })] }))] })
        responses := [
          ("404", .inline { content := [("application/json", some (.inline {}))] }),
          ("201", .inline {
            content := [("application/json", some (.inline { items := some (.inline {}) }))] })] }
      else none })]
  components := { schemas := [
    ("Pet", .inline { properties := [
      ("size", .reference "#/components/schemas/Size"),
      ("keeper", .inline {
        type := some (.single .unknown)
        additionalProperties := some (.schema (.inline {})) })] }),
    ("Size", .inline {
      enumValues := [.string "big", .string "small"]
      enumNames := some ["Big"] })] }

theorem build_diagnoses_vagueShop :
    ∃ result, build .vagueShop {} = .ok result ∧
      (result.statistics.warnings.filter fun warning => !warning.isConfigured).Perm [
        .unsupportedSchema "Pet.keeper\x7b\x7d",
        .invalidEnumMetadata "Size" 2 1,
        .unsupportedSchema "post_pets.param(tag)",
        .unsupportedSchema "post_pets.request.photo",
        .unsupportedSchema "post_pets.response[]"] := by
  have builds : ∃ result, build .vagueShop {} = .ok result := exists_build (by cbv)
  rcases builds with ⟨result, built⟩
  have told : (Document.vagueShop.definitions.flatMap
        (fun (name, schema) => schema.diagnoses name) ++
      Document.vagueShop.operations.flatMap Document.vagueShop.operationDiagnoses) = [
    .unsupportedSchema "Pet.keeper\x7b\x7d",
    .invalidEnumMetadata "Size" 2 1,
    .unsupportedSchema "post_pets.param(tag)",
    .unsupportedSchema "post_pets.request.photo",
    .unsupportedSchema "post_pets.response[]"] := by cbv
  exact ⟨result, built, told ▸ (build_diagnoses built).1⟩

end ApiGraph
