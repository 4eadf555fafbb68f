import ApiGraph.Proofs.Build
import ApiGraph.Proofs.Renumbering.Conversion
import ApiGraph.Report

namespace ApiGraph

/-! # Builds with other numbers

The conversion of a document chooses the numbers of types. Two builds that start the partition from
the same types under other numbers end with the same types, modules and counts, and a report has no
numbers in it. -/

open ApiGraph.Partition

/-- Statistics with other warnings. -/
def Statistics.withWarnings (statistics : Statistics) (warnings : List Warning) : Statistics :=
  { statistics with warnings := warnings }

/-- The second build is the first one with other numbers, but for the order of handlers and for
warnings. -/
structure Build.Renumbers (before : Build) (renumbering : Equiv.Perm TypeId) (after : Build) :
    Prop where
  info : after.info = before.info
  config : after.config = before.config
  registry : before.registry.Renumbers renumbering after.registry
  named : before.registry.IsNamed
  distinct : (Entries.names before.registry.bindings).Nodup ∧
    (Entries.names after.registry.bindings).Nodup
  order : after.order = before.order.renumber renumbering
  modules : before.modules.Named ∧ after.modules.Named
  present : ∀ name, (after.module? name).isSome ↔ (before.module? name).isSome
  types : ∀ name, typesOf after.modules name = (typesOf before.modules name).map renumbering
  handlers : ∀ name, ((handlersOf before.modules name).map (.renumber renumbering)).Perm
    (handlersOf after.modules name)
  statistics : after.statistics = before.statistics.withWarnings after.statistics.warnings

/-! ## Two builds -/

section Arises

variable {first second : Document} {config : Config} {progress moved : Progress}
  {grouped regrouped : ModuleMap} {before after : Build} {renumbering : Equiv.Perm TypeId}

theorem Registry.Renumbers.cycleNames {before after : Registry}
    (renumbers : before.Renumbers renumbering after) (named : before.IsNamed)
    (closed : before.IsClosed) :
    after.cycleNames after.dependencyOrder = before.cycleNames before.dependencyOrder := by
  have order : after.dependencyOrder = before.dependencyOrder.renumber renumbering :=
    (renumbers.graph named closed).dependencyOrder
  simp only [Registry.cycleNames, order, DependencyOrder.renumber, List.map_map]
  apply List.map_congr_left
  intro cycle _
  simp only [Function.comp, List.map_map]
  exact List.map_congr_left fun id _ => renumbers.nameOf id

/-- The modules of types have no part in what they are called. -/
theorem Build.Arises.isNamed (arises : before.Arises first config progress grouped) :
    before.registry.IsNamed := by
  intro id node found
  rw [arises.lookup?]
  have plain : progress.registry.node? id = some { node with module := none } := by
    rw [← arises.types, Registry.node?_withoutModules, found, Option.map_some]
  have bound := arises.converted.complete.faithful.named plain
  exact bound

theorem Build.Arises.renumbers (arises : before.Arises first config progress grouped)
    (rises : after.Arises second config moved regrouped) (info : second.info = first.info)
    (start : (partitionStart progress grouped).Renumbers renumbering
      (partitionStart moved regrouped))
    (modules : ∀ name,
      (∃ entry ∈ second.operations, entry.moduleName config.fallbackModule = name) ↔
        ∃ entry ∈ first.operations, entry.moduleName config.fallbackModule = name)
    (statistics : moved.statistics =
      progress.statistics.withWarnings moved.statistics.warnings) :
    before.Renumbers renumbering after := by
  have unowned : ∀ id, (partitionStart progress grouped).registry.moduleOf? id = none :=
    arises.converted.unowned
  have faithful := arises.converted.complete.faithful
  have registry : before.registry.Renumbers renumbering after.registry := by
    rw [arises.registry, rises.registry]
    exact start.assigned unowned
  have named := arises.isNamed
  have order : after.order = before.order.renumber renumbering := by
    rw [arises.order_eq, rises.order_eq]
    exact (registry.graph named arises.closed).dependencyOrder
  have owner (id : TypeId) (name : String) :
      after.registry.moduleOf? (renumbering id) = some name ↔
        before.registry.moduleOf? id = some name := by
    rw [registry.moduleOf?]
  have present : ∀ name, (after.module? name).isSome ↔ (before.module? name).isSome := by
    intro name
    have owned : (∃ id, after.registry.moduleOf? id = some name) ↔
        ∃ id, before.registry.moduleOf? id = some name :=
      renumbering.surjective.exists.trans (exists_congr fun id => owner id name)
    rw [arises.module?_isSome, rises.module?_isSome, modules, owned]
  have types : ∀ name,
      typesOf after.modules name = (typesOf before.modules name).map renumbering := by
    intro name
    rw [arises.typesOf_eq, rises.typesOf_eq, order, DependencyOrder.renumber, List.filter_map]
    congr 1
    apply List.filter_congr
    intro id _
    simp only [Function.comp, registry.moduleOf?]
  refine ⟨?_, ?_, registry, named, ?_, order, ⟨arises.named, rises.named⟩, present, types, ?_, ?_⟩
  · rw [arises.info, rises.info, info]
  · rw [arises.given, rises.given]
  · exact ⟨arises.distinct, rises.distinct⟩
  · intro name
    rw [arises.handlersOf_eq, rises.handlersOf_eq]
    exact start.handlers name
  · rcases arises.exists_counts with ⟨explicit, reached, configuredOwned, owned, counted⟩
    rcases rises.exists_counts with ⟨moreExplicit, moreReached, sameConfigured, same, recounted⟩
    have sameExplicit : moreExplicit = explicit := by
      rw [← sameConfigured, ← configuredOwned]
      exact (start.configured unowned).owned
    have sameReached : moreReached = reached := by
      have equal := registry.owned
      rw [same, owned, sameExplicit] at equal
      exact Nat.add_left_cancel equal
    have cycles : moved.registry.cycleNames moved.registry.dependencyOrder =
        progress.registry.cycleNames progress.registry.dependencyOrder :=
      start.registry.cycleNames faithful.isNamed faithful.closed
    have size : after.modules.size = before.modules.size := by
      have names := NameMap.names_eq_of_isSome present
      have length := congrArg List.length names
      rwa [NameMap.names, NameMap.names, Entries.names, Entries.names, List.length_map,
        List.length_map] at length
    rw [recounted, counted, registry.unowned, size, sameExplicit, sameReached]
    simp only [partitionStart, Statistics.recordCycles_eq, cycles]
    rw [statistics]
    rfl

end Arises

end ApiGraph
