import ApiGraph.Proofs.Modules
import ApiGraph.Proofs.Related
import ApiGraph.Proofs.Renumbering.Report
import ApiGraph.Proofs.Success
import Mathlib

namespace ApiGraph

/-! # Builds of documents that say the same

Where two documents match and their operations are to be read alike, both can be built or neither
can, and the builds differ in the numbers of types, in the order of warnings, and in the order of
handlers as far as the order of operations differs. -/

open ApiGraph.Partition

/-- The second document says what the first one says, with its operations in the given order. -/
structure Document.Corresponds (first second : Document) (entries : List OperationEntry) :
    Prop where
  info : second.info = first.info
  components : first.Matches second
  perm : first.operations.Perm entries
  operations : List.Forall₂ (first.OperatesAlike second) entries second.operations

/-! ## Success -/

section Success

variable {document : Document} {entry : OperationEntry}

theorem Document.supports_of_translateParameters {parameters : List Parameter}
    {fields : List (ParameterLocation × TypeField String)}
    (translated : document.translateParameters parameters = some fields) :
    ∀ parameter ∈ parameters, ∀ slot, parameter.schema = some slot → document.Supports slot := by
  induction parameters generalizing fields with
  | nil => simp
  | cons parameter rest induction =>
      rw [translateParameters] at translated
      rcases Option.bind_eq_some_iff.mp translated with ⟨field, here, others⟩
      rcases Option.map_eq_some_iff.mp others with ⟨later, there, _⟩
      refine List.forall_mem_cons.mpr ⟨?_, induction there⟩
      intro slot given
      rcases Option.map_eq_some_iff.mp here with ⟨type, found, _⟩
      rw [parameterType?, given] at found
      exact supports_of_translateSlot found

theorem Document.supports_of_translateBody {slot? : Option SchemaSlot}
    {body : Option (TypeRef String)} (translated : document.translateBody slot? = some body) :
    ∀ slot, slot? = some slot → document.Supports slot := by
  intro slot given
  rw [given, translateBody] at translated
  rcases Option.map_eq_some_iff.mp translated with ⟨type, found, _⟩
  exact supports_of_translateSlot found

/-- What has a translation is supported. -/
theorem Document.supportsOperation_of_translates {handler : NamedHandler}
    (translated : document.translateOperation entry = some handler) :
    document.SupportsOperation entry := by
  rcases exists_parts_of_translates translated with
    ⟨parts, fields, taken, first, second, third, _⟩
  exact ⟨parts, takes_iff.mpr taken, OperationParts.forall_mem_slots.mpr
    ⟨supports_of_translateParameters first, supports_of_translateBody second,
      supports_of_translateBody third⟩⟩

end Success

namespace Document.Corresponds

variable {first second : Document} {entries : List OperationEntry}
  (corresponds : first.Corresponds second entries)

include corresponds

theorem exists_operation {other : OperationEntry} (member : other ∈ second.operations) :
    ∃ entry ∈ first.operations, first.OperatesAlike second entry other := by
  rcases exists_of_mem_right corresponds.operations member with ⟨entry, inside, alike⟩
  exact ⟨entry, corresponds.perm.mem_iff.mpr inside, alike⟩

theorem builds {config : Config} {before : Build} (built : build first config = .ok before) :
    ∃ after, build second config = .ok after := by
  rcases exists_arises built with ⟨progress, grouped, arises⟩
  have complete := arises.converted.complete
  rcases arises.converted.handled with ⟨handled, handles, _⟩
  refine (build_succeeds_iff_supported second config).mpr ⟨?_, ?_, ?_⟩
  · exact corresponds.components.chainsEnd complete.chainsEnd
  · intro name other declared
    rcases (corresponds.components.symm complete.chainsEnd).exists_alike declared with
      ⟨schema, given, alike⟩
    rcases complete.bound name (Entries.mem_names_of_value?_eq_some given) with ⟨id, bound⟩
    rcases complete.faithful.exists_translates complete.settled bound given with
      ⟨node, _, _, translates⟩
    have translated : second.translateSlot (.inline other) =
        some (.inline (node.shape.rename progress.registry.nameOf)) := by
      rw [translateSlot, ← alike.translation, translates.translated, Option.map_some]
    exact supports_of_translateSlot translated
  · intro other member
    rcases corresponds.exists_operation member with ⟨entry, inside, alike⟩
    rw [← handles.entries] at inside
    rcases List.mem_map.mp inside with ⟨pair, listed, rfl⟩
    have translated := (handles.translates pair listed).translated
    rw [← alike.translation] at translated
    exact supportsOperation_of_translates translated

theorem moduleName_iff (fallback name : String) :
    (∃ entry ∈ second.operations, entry.moduleName fallback = name) ↔
      ∃ entry ∈ first.operations, entry.moduleName fallback = name := by
  have paired := corresponds.operations
  have perm : (∃ entry ∈ first.operations, entry.moduleName fallback = name) ↔
      ∃ entry ∈ entries, entry.moduleName fallback = name := by
    simp only [corresponds.perm.mem_iff]
  rw [perm]
  generalize second.operations = others at paired ⊢
  clear corresponds perm
  induction paired with
  | nil => simp
  | cons here _ induction =>
      rw [List.exists_mem_cons_iff, List.exists_mem_cons_iff]
      refine or_congr ?_ induction
      rw [OperationEntry.moduleName, OperationEntry.moduleName, here.tags]

theorem operationTally_eq :
    second.operations.map second.operationTally = entries.map first.operationTally := by
  rw [← List.forall₂_eq_eq_eq, List.forall₂_map_left_iff, List.forall₂_map_right_iff]
  exact corresponds.operations.flip.imp fun _ _ alike => alike.tally

theorem operationTally_alike :
    (Tally.sum (first.operations.map first.operationTally)).Alike
      (Tally.sum (second.operations.map second.operationTally)) := by
  rw [corresponds.operationTally_eq]
  exact Tally.sum_perm (corresponds.perm.map _)

end Document.Corresponds

/-! ## Statistics -/

section Statistics

variable {first second : Document} {before after : Registry}

theorem Registry.Complete.bindings_perm (agree : first.Matches second)
    (complete : before.Complete first) (also : after.Complete second) :
    (Entries.names before.bindings).Perm (Entries.names after.bindings) := by
  refine (List.perm_ext_iff_of_nodup complete.faithful.distinct also.faithful.distinct).mpr ?_
  intro name
  rw [complete.mem_bound_iff, also.mem_bound_iff, agree.declared]

/-- The definitions of two documents come to the same, in the order of either. -/
theorem Registry.Complete.componentTally_alike (agree : first.Matches second)
    (complete : before.Complete first) (also : after.Complete second) :
    (first.componentTally before.names).Alike (second.componentTally after.names) := by
  have same : second.componentTally before.names = first.componentTally before.names := by
    rw [Document.componentTally, Document.componentTally]
    congr 1
    apply List.map_congr_left
    intro name member
    rcases complete.mem_names_iff.mp member with ⟨schema, declared⟩
    exact agree.definitionTally_eq declared
  rw [← same]
  exact second.componentTally_perm (complete.names_perm agree also)

theorem Statistics.charge_eq_withWarnings (types aliases : Nat) {total moved : Tally}
    (alike : total.Alike moved) :
    ({} : Statistics).charge types aliases moved =
      (({} : Statistics).charge types aliases total).withWarnings moved.warnings := by
  simp only [charge, withWarnings, alike.anonymousTypes, alike.handlers, List.nil_append]

end Statistics

/-! ## Builds -/

theorem Registry.Renumbers.unknownTypes {before after : Registry}
    {renumbering : Equiv.Perm TypeId} (renumbers : before.Renumbers renumbering after)
    (config : Config) : config.unknownTypes after = config.unknownTypes before := by
  have bound : after.isBound = before.isBound := by
    funext name
    rw [Registry.isBound, Registry.isBound, renumbers.lookup?, Option.isSome_map]
  rw [Config.unknownTypes, Config.unknownTypes, bound]

namespace Document.Corresponds

variable {first second : Document} {entries : List OperationEntry} {fallback : String}
  {grouped regrouped : ModuleMap} {progress moved : Progress}

theorem statistics_eq (corresponds : first.Corresponds second entries)
    (converted : Converted first fallback grouped progress)
    (also : Converted second fallback regrouped moved) :
    moved.statistics = progress.statistics.withWarnings moved.statistics.warnings ∧
      progress.statistics.warnings.Perm moved.statistics.warnings := by
  have agree := corresponds.components
  rcases converted.exists_total with ⟨aliases, total, bindings, alike, statistics⟩
  rcases also.exists_total with ⟨others, more, rebound, realike, restatistics⟩
  have types := (converted.complete.names_perm agree also.complete).length_eq
  have names := (converted.complete.bindings_perm agree also.complete).length_eq
  rw [Entries.names, Entries.names, List.length_map, List.length_map] at names
  have sameAliases : others = aliases := by omega
  have whole : (total ++ Tally.sum (first.operations.map first.operationTally)).Alike
      (more ++ Tally.sum (second.operations.map second.operationTally)) :=
    ((alike.trans (converted.complete.componentTally_alike agree also.complete)).trans
      realike.symm).append corresponds.operationTally_alike
  rw [statistics, restatistics, sameAliases, ← types]
  refine ⟨Statistics.charge_eq_withWarnings _ _ whole, ?_⟩
  exact whole.warnings

theorem handlersOf_perm (corresponds : first.Corresponds second entries)
    (converted : Converted first fallback grouped progress)
    (also : Converted second fallback regrouped moved) (name : String) :
    ((handlersOf grouped name).map (.renumber
      (converted.complete.renumbering corresponds.components also.complete))).Perm
        (handlersOf regrouped name) := by
  rcases converted.handled with ⟨handled, handles, rfl⟩
  rcases also.handled with ⟨rehandled, rehandles, rfl⟩
  rcases handles.perm corresponds.perm with ⟨shuffled, perm, aligned⟩
  have related := aligned.forall₂_renumber corresponds.components converted.complete also.complete
    rehandles corresponds.operations
  rw [handlersOf_addHandlers, handlersOf_addHandlers, handlersFor_renumber related]
  exact (handlersFor_perm perm fallback name).map _

theorem handlersOf_eq (corresponds : first.Corresponds second first.operations)
    (converted : Converted first fallback grouped progress)
    (also : Converted second fallback regrouped moved) (name : String) :
    (handlersOf grouped name).map (.renumber
      (converted.complete.renumbering corresponds.components also.complete)) =
        handlersOf regrouped name := by
  rcases converted.handled with ⟨handled, handles, rfl⟩
  rcases also.handled with ⟨rehandled, rehandles, rfl⟩
  have related := handles.forall₂_renumber corresponds.components converted.complete also.complete
    rehandles corresponds.operations
  rw [handlersOf_addHandlers, handlersOf_addHandlers, handlersFor_renumber related]
  rfl

section Builds

variable {config : Config} {before after : Build}

theorem renumbers (corresponds : first.Corresponds second entries)
    (arises : before.Arises first config progress grouped)
    (rises : after.Arises second config moved regrouped) :
    before.Renumbers
      (arises.converted.complete.renumbering corresponds.components rises.converted.complete)
      after := by
  apply arises.renumbers rises corresponds.info
  · exact ⟨arises.converted.complete.renumbers corresponds.components rises.converted.complete,
      corresponds.handlersOf_perm arises.converted rises.converted⟩
  · exact corresponds.moduleName_iff config.fallbackModule
  · exact (corresponds.statistics_eq arises.converted rises.converted).1

theorem warnings_perm (corresponds : first.Corresponds second entries)
    (arises : before.Arises first config progress grouped)
    (rises : after.Arises second config moved regrouped) :
    before.statistics.warnings.Perm after.statistics.warnings := by
  have registry := (corresponds.renumbers arises rises).registry
  rw [arises.warnings_eq, rises.warnings_eq, registry.unknownTypes]
  exact (corresponds.statistics_eq arises.converted rises.converted).2.append_right _

theorem report_modules_eq (corresponds : first.Corresponds second first.operations)
    (arises : before.Arises first config progress grouped)
    (rises : after.Arises second config moved regrouped) :
    after.report.modules = before.report.modules := by
  apply (corresponds.renumbers arises rises).report_modules_eq
  intro name
  rw [arises.handlersOf_eq, rises.handlersOf_eq]
  exact corresponds.handlersOf_eq arises.converted rises.converted name

end Builds

end Document.Corresponds

end ApiGraph
