import ApiGraph.Proofs.Conversion.OperationSuccess

namespace ApiGraph

/-! # When a build succeeds

Only the conversion of a document can fail. The order of the conversion and what is registered when
a definition is met have no part in it: a build succeeds on a condition of the document alone, and
for every configuration. -/

open Conversion Converting

/-- A build fails only where the conversion of its document does. -/
theorem build_succeeds_iff_converts (document : Document) (config : Config) :
    (∃ result, build document config = .ok result) ↔
      ∃ modules, ((convertDocument document config.fallbackModule).run {}).1 = .ok modules := by
  unfold build
  rcases (convertDocument document config.fallbackModule).run {} with ⟨outcome, progress⟩
  cases outcome with
  | error error => simp
  | ok modules => simp

/-- A definition has no chain to follow. -/
theorem Document.chainsEnd_iff {document : Document} :
    document.ChainsEnd ↔ ∀ name path, document.schema? name = some (.reference path) →
      ∃ last schema, document.LeadsTo name last schema := by
  constructor
  · intro chains name path declared
    exact chains name (Entries.mem_names_of_value?_eq_some declared)
  · intro references name member
    rcases Option.isSome_iff_exists.mp ((Entries.value?_isSome_iff _ _).mpr member) with
      ⟨slot, declared⟩
    cases slot with
    | reference path => exact references name path declared
    | inline schema => exact ⟨name, schema, .here declared⟩

theorem build_succeeds_iff_supported (document : Document) (config : Config) :
    (∃ result, build document config = .ok result) ↔
      document.ChainsEnd ∧ document.DefinitionsHold ∧
        ∀ entry ∈ document.operations, document.SupportsOperation entry := by
  have components := succeeds_convertComponents_iff document
  rw [build_succeeds_iff_converts, convertDocument_eq, run_bind]
  have faithful := (yields_convertComponents document).faithful
  cases converted : (convertComponents document {}).value with
  | error error =>
      have failed : ¬Succeeds (convertComponents document {}) := by
        intro succeeds
        rcases succeeds with ⟨_, success⟩
        rw [converted] at success
        cases success
      have outcome : ((Converting.ofStep (convertComponents document)).run {}).1 =
          .error error := converted
      rw [outcome]
      constructor
      · intro succeeds
        rcases succeeds with ⟨modules, success⟩
        cases success
      · intro holds
        exact absurd (components.mpr ⟨holds.1, holds.2.1⟩) failed
  | ok _ =>
      have holds := components.mp ⟨_, converted⟩
      have outcome : ((Converting.ofStep (convertComponents document)).run {}).1 =
          .ok () := converted
      rw [outcome]
      have operations := succeedsIff_convertOperations holds.1 holds.2 config.fallbackModule .empty
        document.operations _ faithful
      constructor
      · intro succeeds
        exact ⟨holds.1, holds.2, operations.mp succeeds⟩
      · intro supported
        exact operations.mpr supported.2.2

/-- A build succeeds exactly when every component that is a reference leads to a definition, every
definition among the components is supported, and so is everything that an operation uses. -/
theorem build_succeeds_iff (document : Document) (config : Config) :
    (∃ result, build document config = .ok result) ↔
      (∀ name path, document.schema? name = some (.reference path) →
          ∃ last schema, document.LeadsTo name last schema) ∧
        (∀ name schema, document.schema? name = some (.inline schema) →
          document.Supports (.inline schema)) ∧
        ∀ entry ∈ document.operations, document.SupportsOperation entry := by
  rw [build_succeeds_iff_supported, Document.chainsEnd_iff, Document.DefinitionsHold]

end ApiGraph
