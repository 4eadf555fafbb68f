import ApiGraph.Proofs.Conversion.InlineTypes
import ApiGraph.Proofs.Ownership
import Mathlib

namespace ApiGraph

/-! # The statistics of a build

A build counts while it goes on, at many places, and nothing in it reads the counts. At the end they
say what one can count in the document and in the result. -/

open ApiGraph.Partition

/-- The handlers of all modules. -/
def Build.handlers (result : Build) : List Handler :=
  result.modules.entries.flatMap fun entry => entry.2.handlers

/-- The configuration has an entry for a type. -/
def Config.SpeaksFor (config : Config) (registry : Registry) (id : TypeId) : Prop :=
  ∃ key module, config.Assigns registry key module id

/-- Some handler reaches a type. -/
def Build.IsReached (result : Build) (id : TypeId) : Prop := ∃ name, result.Reaches name id

/-! ## Numbers of names, types and handlers -/

theorem ncard_of_nodup {α : Type} {values : List α} (distinct : values.Nodup) {Holds : α → Prop}
    (listed : ∀ value, value ∈ values ↔ Holds value) : {value | Holds value}.ncard = values.length := by
  classical
  rw [← List.toFinset_card_of_nodup distinct, ← Set.ncard_coe_finset]
  congr 1
  ext value
  simp [listed]

/-- The number of types with a property that can be read off their nodes. -/
theorem Registry.ncard_eq_countP (registry : Registry) {Holds : TypeId → Prop}
    {test : TypeNode → Bool}
    (agree : ∀ id node, registry.node? id = some node → (test node ↔ Holds id)) :
    {id | id < registry.size ∧ Holds id}.ncard = registry.nodes.countP test := by
  have nodes : registry.nodes.map some = registry.ids.map registry.node? := by
    apply List.ext_getElem
    · simp [ids, size]
    · intro id first second
      rw [List.length_map] at first
      simp [ids, node?, first]
  have counted : registry.nodes.countP test =
      (registry.ids.filter fun id => (registry.node? id).any test).length := by
    rw [← List.countP_eq_length_filter]
    have mapped := congrArg (List.countP (Option.any test)) nodes
    rw [List.countP_map, List.countP_map] at mapped
    exact mapped
  rw [counted]
  apply ncard_of_nodup (List.nodup_range.filter _)
  intro id
  rw [List.mem_filter, List.mem_range]
  refine and_congr_right fun registered => ?_
  have found : registry.node? id = some registry.nodes[id] := List.getElem?_eq_getElem registered
  rw [found, Option.any_some]
  exact agree id _ found

theorem ncard_or {size : Nat} {First Second : TypeId → Prop} :
    {id | id < size ∧ (First id ∨ Second id)}.ncard =
      {id | id < size ∧ First id}.ncard + {id | id < size ∧ ¬First id ∧ Second id}.ncard := by
  have finite {Holds : TypeId → Prop} : {id | id < size ∧ Holds id}.Finite :=
    (Set.finite_lt_nat size).subset fun id member => member.1
  have apart : Disjoint {id | id < size ∧ First id} {id | id < size ∧ ¬First id ∧ Second id} :=
    Set.disjoint_left.mpr fun id member other => other.2.1 member.2
  rw [← Set.ncard_union_eq apart finite finite]
  congr 1
  ext id
  simp only [Set.mem_union, Set.mem_ofPred_eq]
  tauto

theorem Registry.owned_add_countP (registry : Registry) :
    registry.owned + registry.nodes.countP (fun node => node.module.isNone) = registry.size := by
  rw [owned, size, registry.nodes.length_eq_length_filter_add fun node => node.module.isSome,
    ← List.countP_eq_length_filter, ← List.countP_eq_length_filter]
  simp

theorem perm_handlers_addHandlers (fallback : String) (modules : ModuleMap) (handled : Handled) :
    ((addHandlers fallback modules handled).entries.flatMap fun entry => entry.2.handlers).Perm
      ((modules.entries.flatMap fun entry => entry.2.handlers) ++ handled.map Prod.snd) := by
  induction handled generalizing modules with
  | nil => simp [addHandlers]
  | cons pair rest induction =>
      rcases pair with ⟨entry, handler⟩
      rw [addHandlers, List.foldl_cons, List.map_cons, List.append_cons]
      refine (induction _).trans (List.Perm.append_right _ ?_)
      exact NameMap.flatMap_alterEntries_perm rfl (fun _ => rfl) modules.entries

namespace Build.Arises

variable {document : Document} {config : Config} {progress : Progress} {grouped : ModuleMap}
  {result : Build} (arises : result.Arises document config progress grouped)

include arises

/-- The modules of a build hold the handlers of all operations. -/
theorem exists_handlers :
    ∃ handled, Handles document progress.registry document.operations handled ∧
      result.handlers.Perm (handled.map Prod.snd) := by
  rcases arises.converted.handled with ⟨handled, handles, rfl⟩
  refine ⟨handled, handles, ?_⟩
  have listed (modules : ModuleMap) : (modules.entries.flatMap fun entry => entry.2.handlers) =
      (modules.mapValues fun _ module => module.handlers).entries.flatMap Prod.snd := by
    rw [NameMap.mapValues, List.flatMap_map]
  have same : result.handlers = (addHandlers config.fallbackModule .empty
      handled).entries.flatMap fun entry => entry.2.handlers := by
    rw [Build.handlers, listed, listed]
    apply NameMap.flatten_eq
    intro name
    rw [NameMap.value?_mapValues, NameMap.value?_mapValues]
    exact arises.handlersOf_eq name
  rw [same]
  exact perm_handlers_addHandlers _ _ _

/-! ## Counts -/

/-- All counts of a build. -/
theorem exists_statistics :
    ∃ (explicit reached aliases : Nat) (total : Tally),
      (configured config (partitionStart progress grouped)).registry.owned = explicit ∧
      result.registry.owned = explicit + reached ∧
      progress.registry.bindings.length = progress.registry.names.length + aliases ∧
      total.Alike (document.componentTally progress.registry.names ++
        .sum (document.operations.map document.operationTally)) ∧
      result.statistics = {
        namedTypes := progress.registry.names.length
        aliases := aliases
        anonymousTypes := total.anonymousTypes
        handlersConverted := total.handlers
        modules := result.modules.size
        explicitAssignments := explicit
        reachabilityAssignments := reached
        unassignedTypes := result.registry.nodes.countP fun node => node.module.isNone
        cycles := progress.registry.cycleNames progress.registry.dependencyOrder
        cyclesDetected := (progress.registry.cycleNames progress.registry.dependencyOrder).length
        warnings := result.statistics.warnings } := by
  rcases arises.exists_counts with ⟨explicit, reached, configured, owned, statistics⟩
  rcases arises.converted.exists_total with ⟨aliases, total, bindings, alike, charged⟩
  refine ⟨explicit, reached, aliases, _, configured, owned, bindings, alike.append (.refl _), ?_⟩
  rw [statistics]
  simp [partitionStart, Statistics.recordCycles_eq, charged, Statistics.charge]

/-! ## Owners -/

/-- The first count of the partition is that of the types that the configuration speaks for. -/
theorem owned_configured :
    (configured config (partitionStart progress grouped)).registry.owned =
      {id | id < result.registry.size ∧ config.SpeaksFor result.registry id}.ncard := by
  have grants := grants_configured config (partitionStart progress grouped)
  have size : result.registry.size =
      (configured config (partitionStart progress grouped)).registry.size := by
    rw [arises.size, grants.size, partitionStart]
  rw [size]
  refine (Registry.ncard_eq_countP _ fun id node found => ?_).symm
  have registered := Registry.lt_size_of_node? found
  rw [grants.size] at registered
  have owner := grants.owner id registered
  have unowned : (partitionStart progress grouped).registry.moduleOf? id = none :=
    arises.converted.unowned id
  rw [Registry.moduleOf?_eq found, unowned, Option.none_or, firstRequest_flatMap Prod.snd] at owner
  rw [owner, Option.isSome_map, List.find?_isSome]
  simp [Config.SpeaksFor, Config.Assigns, arises.lookup?, partitionStart]

theorem isSome_module_iff {id : TypeId} {node : TypeNode}
    (found : result.registry.node? id = some node) :
    node.module.isSome ↔ config.SpeaksFor result.registry id ∨ result.IsReached id := by
  rcases arises.owner_cases found with
    ⟨key, module, assigns, _, owner⟩ | ⟨unassigned, ⟨name, reaches, _, owner⟩ | ⟨unreached, free⟩⟩
  · simpa [owner] using Or.inl ⟨key, module, assigns⟩
  · simpa [owner] using Or.inr ⟨name, reaches⟩
  · simpa [free] using ⟨unassigned, unreached⟩

theorem owned_eq :
    result.registry.owned = {id | id < result.registry.size ∧
      (config.SpeaksFor result.registry id ∨ result.IsReached id)}.ncard :=
  (Registry.ncard_eq_countP _ fun _ _ found => arises.isSome_module_iff found).symm

theorem unowned_eq :
    (result.registry.nodes.countP fun node => node.module.isNone) =
      {id | id < result.registry.size ∧
        ¬config.SpeaksFor result.registry id ∧ ¬result.IsReached id}.ncard := by
  refine (Registry.ncard_eq_countP _ fun id node found => ?_).symm
  rw [← not_or, ← arises.isSome_module_iff found, Option.isSome_iff_ne_none, ne_eq, not_not,
    Option.isNone_iff_eq_none]

end Build.Arises

/-- What a build counts is there. Its types are the components that are definitions and its aliases
are those that are references. It has a handler for each operation. A type is counted as given by the
configuration where that speaks for it, as reached where it does not and some handler reaches the
type, and otherwise as unassigned. The inline types are those inside named types and handlers, but
for the places of parameters that have no schema. -/
theorem build_statistics {document : Document} {config : Config} {result : Build}
    (built : build document config = .ok result) :
    (result.statistics.namedTypes = result.registry.size ∧
      result.registry.size =
        {name | ∃ schema, document.schema? name = some (.inline schema)}.ncard) ∧
    (result.statistics.aliases = result.registry.aliases.length ∧
      result.registry.aliases.length =
        {name | ∃ path, document.schema? name = some (.reference path)}.ncard) ∧
    (result.statistics.handlersConverted = document.operations.length ∧
      result.handlers.length = document.operations.length) ∧
    result.statistics.modules = result.modules.size ∧
    (result.statistics.explicitAssignments =
        {id | id < result.registry.size ∧ config.SpeaksFor result.registry id}.ncard ∧
      result.statistics.reachabilityAssignments =
        {id | id < result.registry.size ∧
          ¬config.SpeaksFor result.registry id ∧ result.IsReached id}.ncard ∧
      result.statistics.unassignedTypes =
        {id | id < result.registry.size ∧
          ¬config.SpeaksFor result.registry id ∧ ¬result.IsReached id}.ncard ∧
      result.statistics.explicitAssignments + result.statistics.reachabilityAssignments +
        result.statistics.unassignedTypes = result.statistics.namedTypes) ∧
    (result.statistics.cyclesDetected = result.statistics.cycles.length ∧
      result.statistics.cycles.length = result.order.cycles.length) ∧
    result.statistics.anonymousTypes +
        (document.operations.flatMap document.untypedParameters).length =
      result.registry.inlineTypes + (result.handlers.map Handler.inlineTypes).sum := by
  rcases exists_arises built with ⟨progress, grouped, arises⟩
  rcases arises.exists_statistics with
    ⟨explicit, reached, aliases, total, given, owned, bindings, alike, statistics⟩
  rcases arises.exists_handlers with ⟨handled, handles, perm⟩
  have complete := arises.converted.complete
  have types : result.registry.size = progress.registry.names.length := by
    rw [arises.size, Registry.names, List.length_map, Registry.size]
  have sameAliases : result.registry.aliases = progress.registry.aliases := by
    rw [← arises.types]
    simp only [Registry.aliases, Registry.nameOf_withoutModules]
    rfl
  have operations : document.operations.length = (handled.map Prod.snd).length := by
    rw [← handles.entries, List.length_map, List.length_map]
  have definitions := complete.counts_componentTally
  rcases handles.tally with ⟨handlers, inlineTypes⟩
  refine ⟨⟨?_, ?_⟩, ⟨?_, ?_⟩, ⟨?_, ?_⟩, ?_, ⟨?_, ?_, ?_, ?_⟩, ⟨?_, ?_⟩, ?_⟩
  · rw [statistics, types]
  · rw [types]
    exact (ncard_of_nodup complete.faithful.indexed.nodup_names fun _ => complete.mem_names_iff).symm
  · rw [complete.faithful.indexed.length_bindings, Registry.names, List.length_map] at bindings
    rw [statistics, sameAliases]
    exact (Nat.add_left_cancel bindings).symm
  · have distinct : (Entries.names progress.registry.aliases).Nodup :=
      complete.faithful.distinct.sublist (List.filter_sublist.map _)
    rw [ncard_of_nodup distinct fun _ => complete.mem_aliases_iff, sameAliases, Entries.names,
      List.length_map]
  · rw [statistics, alike.handlers, Tally.handlers_append, definitions.handlers, handlers,
      Nat.zero_add]
  · rw [operations, perm.length_eq]
  · rw [statistics]
  · rw [statistics, ← given, arises.owned_configured]
  · -- What has an owner after the partition and was not given one before it has been reached.
    rw [arises.owned_eq, ncard_or, ← arises.owned_configured, given] at owned
    rw [statistics, Nat.add_left_cancel owned]
  · rw [statistics, arises.unowned_eq]
  · rw [statistics]
    dsimp only
    rw [← owned, Registry.owned_add_countP, types]
  · rw [statistics]
  · rw [statistics, arises.order, Registry.cycleNames, List.length_map]
  · have inside : result.registry.inlineTypes = progress.registry.inlineTypes := by
      rw [← arises.types, Registry.inlineTypes, Registry.inlineTypes, Registry.withoutModules,
        List.map_map]
      rfl
    rw [statistics, (perm.map _).sum_eq, ← inlineTypes, inside, ← definitions.anonymousTypes,
      alike.anonymousTypes, Tally.anonymousTypes_append, Nat.add_assoc]

/-- In the attic shop the keeper is an alias of the owner. One type is given, one is reached and one is
neither, and the type in the place of one parameter is not counted. -/
theorem build_statistics_atticShop :
    ∃ result, build .atticShop .petShop = .ok result ∧
      (result.statistics.namedTypes = 3 ∧
        {name | ∃ schema, Document.atticShop.schema? name = some (.inline schema)}.ncard = 3) ∧
      (result.registry.aliases = [("Keeper", 1)] ∧ result.statistics.aliases = 1 ∧
        {name | ∃ path, Document.atticShop.schema? name = some (.reference path)}.ncard = 1) ∧
      (result.statistics.handlersConverted = 1 ∧ result.handlers.length = 1) ∧
      ({id | id < result.registry.size ∧ Config.petShop.SpeaksFor result.registry id} = {1} ∧
        result.statistics.explicitAssignments = 1) ∧
      ({id | id < result.registry.size ∧ ¬Config.petShop.SpeaksFor result.registry id ∧
          result.IsReached id} = {0} ∧
        result.statistics.reachabilityAssignments = 1) ∧
      ({id | id < result.registry.size ∧ ¬Config.petShop.SpeaksFor result.registry id ∧
          ¬result.IsReached id} = {2} ∧
        result.statistics.unassignedTypes = 1) ∧
      result.statistics.anonymousTypes + 1 =
        result.registry.inlineTypes + (result.handlers.map Handler.inlineTypes).sum := by
  rcases exists_atticShop with ⟨result, built, names, bindings, assigns, reaches⟩
  rcases build_statistics built with ⟨⟨types, defined⟩, ⟨aliases, referring⟩, handlers, _,
    ⟨explicit, reached, unassigned, _⟩, _, inlineTypes⟩
  have size : result.registry.size = 3 := by
    rw [Registry.size, ← List.length_map, names]
    rfl
  have speaks (id : TypeId) : Config.petShop.SpeaksFor result.registry id ↔ id = 1 := by
    simp only [Config.SpeaksFor, assigns]
    constructor
    · rintro ⟨_, _, _, same⟩
      exact same
    · intro same
      exact ⟨"Keeper", "people", .inl ⟨rfl, rfl⟩, same⟩
  have isReached (id : TypeId) : result.IsReached id ↔ id < 2 := by
    simp [Build.IsReached, reaches]
  have nameOf (id : TypeId) :
      result.registry.nameOf id = (["Pet", "Owner", "Attic"][id]?).getD "" := by
    rw [← names, List.getElem?_map, Registry.nameOf, Registry.node?]
    cases result.registry.nodes[id]? <;> rfl
  have keeper : result.registry.aliases = [("Keeper", 1)] := by
    simp [Registry.aliases, bindings, nameOf, List.filter]
  have given :
      {id | id < result.registry.size ∧ Config.petShop.SpeaksFor result.registry id} = {1} := by
    ext id
    simp only [size, speaks, Set.mem_ofPred_eq, Set.mem_singleton_iff]
    grind
  have left : {id | id < result.registry.size ∧
      ¬Config.petShop.SpeaksFor result.registry id ∧ result.IsReached id} = {0} := by
    ext id
    simp only [size, speaks, isReached, Set.mem_ofPred_eq, Set.mem_singleton_iff]
    grind
  have rest : {id | id < result.registry.size ∧
      ¬Config.petShop.SpeaksFor result.registry id ∧ ¬result.IsReached id} = {2} := by
    ext id
    simp only [size, speaks, isReached, Set.mem_ofPred_eq, Set.mem_singleton_iff]
    grind
  rw [given, Set.ncard_singleton] at explicit
  rw [left, Set.ncard_singleton] at reached
  rw [rest, Set.ncard_singleton] at unassigned
  refine ⟨result, built, ⟨types.trans size, defined.symm.trans size⟩, ⟨keeper, ?_, ?_⟩, handlers,
    ⟨given, explicit⟩, ⟨left, reached⟩, ⟨rest, unassigned⟩, inlineTypes⟩
  · rw [aliases, keeper]
    rfl
  · rw [← referring, keeper]
    rfl

end ApiGraph
