import ApiGraph.Proofs.Reading
import ApiGraph.Proofs.Redirection.Document
import Mathlib

namespace ApiGraph

/-! # The order of declarations

Components are declared in some order and are registered in the order in which they are met. The
order of the sections of a document decides on the numbers of types and on the order of warnings;
the order of paths also decides on the order of handlers. Nothing else in a report depends on
them. -/

section Entries

variable {α : Type} {entries others : Entries α}

theorem Entries.value?_eq_of_perm (distinct : (names entries).Nodup) (perm : entries.Perm others)
    (name : String) : value? others name = value? entries name := by
  have also : (names others).Nodup := (perm.map Prod.fst).nodup_iff.mp distinct
  apply Option.ext
  intro value
  constructor
  · intro found
    exact value?_eq_some_of_mem distinct (perm.mem_iff.mpr (mem_of_value?_eq_some found))
  · intro found
    exact value?_eq_some_of_mem also (perm.mem_iff.mp (mem_of_value?_eq_some found))

theorem Referable.agree_of_perm {Related : α → α → Prop} {entries others : Entries (Referable α)}
    (distinct : (Entries.names entries).Nodup) (perm : entries.Perm others)
    (each : ∀ value, Related value value) : Agree Related entries others := by
  intro name
  rw [Entries.value?_eq_of_perm distinct perm]
  exact rel_refl (Referable.Rel.refl each) _

end Entries

/-- The sections of a document and its paths in another order. No name is declared twice in a
section. -/
structure Document.Rearranges (first second : Document) : Prop where
  distinct : first.components.Distinct
  openapi : second.openapi = first.openapi
  info : second.info = first.info
  schemas : first.components.schemas.Perm second.components.schemas
  parameters : first.components.parameters.Perm second.components.parameters
  requestBodies : first.components.requestBodies.Perm second.components.requestBodies
  responses : first.components.responses.Perm second.components.responses
  paths : first.paths.Perm second.paths

namespace Document.Rearranges

variable {first second : Document} (rearranges : first.Rearranges second)

include rearranges

theorem symm : second.Rearranges first where
  distinct :=
    ⟨(rearranges.schemas.map Prod.fst).nodup_iff.mp rearranges.distinct.schemas,
      (rearranges.parameters.map Prod.fst).nodup_iff.mp rearranges.distinct.parameters,
      (rearranges.requestBodies.map Prod.fst).nodup_iff.mp rearranges.distinct.requestBodies,
      (rearranges.responses.map Prod.fst).nodup_iff.mp rearranges.distinct.responses⟩
  openapi := rearranges.openapi.symm
  info := rearranges.info.symm
  schemas := rearranges.schemas.symm
  parameters := rearranges.parameters.symm
  requestBodies := rearranges.requestBodies.symm
  responses := rearranges.responses.symm
  paths := rearranges.paths.symm

/-- All references are left as they are. -/
theorem rewrites : first.Rewrites Eq second := by
  have same : ∀ slot, Redirects Eq slot slot := .refl fun _ => rfl
  have distinct := rearranges.distinct
  exact {
    info := rearranges.info
    declared := fun name => (rearranges.schemas.map Prod.fst).symm.mem_iff
    schemas := Referable.agree_of_perm distinct.schemas rearranges.schemas
      fun schema => same (.inline schema)
    parameters := Referable.agree_of_perm distinct.parameters rearranges.parameters (.refl same)
    requestBodies := Referable.agree_of_perm distinct.requestBodies rearranges.requestBodies
      (.refl same)
    responses := Referable.agree_of_perm distinct.responses rearranges.responses (.refl same) }

theorem corresponds {config : Config} {before : Build} (built : build first config = .ok before) :
    first.Corresponds second second.operations := by
  apply rearranges.rewrites.corresponds _ _ _ built
  · intro path other same
    rw [same]
  · exact rearranges.paths.flatMap_right _
  · exact List.forall₂_same.mpr fun entry _ => .refl (Redirects.refl fun _ => rfl) entry

end Document.Rearranges

/-- A document with its sections and paths in another order can be built if and only if the document
can. The report of the one is the report of the other, but for the order of warnings and of the
handlers inside modules; and handlers are in the same order where the paths are. -/
theorem build_rearranged {first second : Document} (rearranges : first.Rearranges second)
    (config : Config) :
    ((∃ result, build second config = .ok result) ↔ ∃ result, build first config = .ok result) ∧
      ∀ before after, build first config = .ok before → build second config = .ok after →
        before.report.statistics.warnings.Perm after.report.statistics.warnings ∧
        List.Forall₂ (fun module other => other.name = module.name ∧
            other.types = module.types ∧ module.handlers.Perm other.handlers)
          before.report.modules after.report.modules ∧
        (second.paths = first.paths → after.report.modules = before.report.modules) ∧
        after.report = { before.report with
          modules := after.report.modules
          statistics := { before.report.statistics with
            warnings := after.report.statistics.warnings } } := by
  refine ⟨⟨?_, ?_⟩, ?_⟩
  · intro builds
    rcases builds with ⟨after, rebuilt⟩
    exact (rearranges.symm.corresponds rebuilt).builds rebuilt
  · intro builds
    rcases builds with ⟨before, built⟩
    exact (rearranges.corresponds built).builds built
  · intro before after built rebuilt
    rcases exists_arises built with ⟨progress, grouped, arises⟩
    rcases exists_arises rebuilt with ⟨moved, regrouped, rises⟩
    have corresponds := rearranges.corresponds built
    have renumbers := corresponds.renumbers arises rises
    refine ⟨corresponds.warnings_perm arises rises, renumbers.report_modules_perm, ?_,
      renumbers.report_eq⟩
    intro paths
    have operations : second.operations = first.operations := by
      rw [Document.operations, paths, Document.operations]
    rw [operations] at corresponds
    exact corresponds.report_modules_eq arises rises

/-- The pet shop with its schemas from the last one to the first. -/
def Document.turnedPetShop : Document :=
  { openPetShop with
    components := { schemas := openPetShop.components.schemas.reverse } }

theorem Document.rearranges_turnedPetShop : openPetShop.Rearranges turnedPetShop where
  distinct := ⟨by decide, List.nodup_nil, List.nodup_nil, List.nodup_nil⟩
  openapi := rfl
  info := rfl
  schemas := (List.reverse_perm _).symm
  parameters := .refl _
  requestBodies := .refl _
  responses := .refl _
  paths := .refl _

theorem build_rearranged_turnedPetShop :
    Document.openPetShop.Rearranges .turnedPetShop ∧
      ∃ before after, build .openPetShop .petShop = .ok before ∧
        build .turnedPetShop .petShop = .ok after ∧
        after.report.modules = before.report.modules ∧
        after.report.types = before.report.types := by
  rcases openPetShop_builds with ⟨before, built⟩
  rcases build_rearranged Document.rearranges_turnedPetShop .petShop with ⟨succeeds, reports⟩
  rcases succeeds.mpr ⟨before, built⟩ with ⟨after, rebuilt⟩
  rcases reports before after built rebuilt with ⟨_, _, modules, whole⟩
  refine ⟨Document.rearranges_turnedPetShop, before, after, built, rebuilt, modules rfl, ?_⟩
  rw [whole]

end ApiGraph
