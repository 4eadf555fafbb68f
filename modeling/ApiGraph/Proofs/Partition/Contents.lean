import ApiGraph.Proofs.Partition.Ownership
import ApiGraph.Proofs.Sorting
import Mathlib

namespace ApiGraph

/-! # What a partition holds and counts

A request that is granted gives a module one more type, makes the module when it does not exist, and
is counted once, under its ground. So types stand in the lists of modules without repetition, modules
exist only for a reason, and the counts say how many types got an owner. -/

/-- Why a module asks for types. -/
inductive Ground where
  | configured
  | reached

def Ground.count : Ground → Statistics → Statistics
  | .configured => Statistics.countExplicitAssignment
  | .reached => Statistics.countReachabilityAssignment

/-- The statistics after some requests were granted, with the warnings that came up. -/
def Statistics.grant (statistics : Statistics) (granted : Nat) (warnings : List Warning) :
    Ground → Statistics
  | .configured =>
      { statistics with
        explicitAssignments := statistics.explicitAssignments + granted
        warnings := statistics.warnings ++ warnings }
  | .reached =>
      { statistics with
        reachabilityAssignments := statistics.reachabilityAssignments + granted
        warnings := statistics.warnings ++ warnings }

theorem Statistics.grant_nothing (statistics : Statistics) (ground : Ground) :
    statistics.grant 0 [] ground = statistics := by
  cases ground <;> simp [grant]

theorem Statistics.grant_grant (statistics : Statistics) (granted more : Nat)
    (warnings others : List Warning) (ground : Ground) :
    (statistics.grant granted warnings ground).grant more others ground =
      statistics.grant (granted + more) (warnings ++ others) ground := by
  cases ground <;> simp [grant, Nat.add_assoc]

/-- How many types have an owner. -/
def Registry.owned (registry : Registry) : Nat :=
  registry.nodes.countP fun node => node.module.isSome

namespace Partition

/-- The second partition is the first one after some requests on one ground. -/
structure Advances (ground : Ground) (before after : Partition) (granted : Nat)
    (warnings : List Warning) : Prop where
  owned : after.registry.owned = before.registry.owned + granted
  statistics : after.statistics = before.statistics.grant granted warnings ground
  grows : ∀ name, typesOf before.modules name <+: typesOf after.modules name
  modules : ∀ name, (after.modules.value? name).isSome ↔
    (before.modules.value? name).isSome ∨ typesOf after.modules name ≠ []
  distinct : before.Agrees → (∀ name, (typesOf before.modules name).Nodup) →
    ∀ name, (typesOf after.modules name).Nodup

variable {ground : Ground} {before middle after partition : Partition} {granted more : Nat}
  {warnings others : List Warning} {name : String} {id : TypeId}

/-- A module that holds a type exists. -/
theorem value?_isSome_of_typesOf {modules : ModuleMap} (holds : typesOf modules name ≠ []) :
    (modules.value? name).isSome := by
  rw [typesOf, partOf] at holds
  cases found : modules.value? name with
  | none => simp [found] at holds
  | some module => rfl

theorem Advances.still (registry : after.registry = before.registry)
    (modules : after.modules = before.modules)
    (statistics : after.statistics = before.statistics.grant 0 warnings ground) :
    Advances ground before after 0 warnings where
  owned := by rw [registry, Nat.add_zero]
  statistics := statistics
  grows _ := by rw [modules]
  modules _ := by
    rw [modules]
    exact ⟨.inl, fun holds => holds.elim id value?_isSome_of_typesOf⟩
  distinct _ distinct := by
    rw [modules]
    exact distinct

theorem Advances.trans (agrees : before.Agrees → middle.Agrees)
    (first : Advances ground before middle granted warnings)
    (second : Advances ground middle after more others) :
    Advances ground before after (granted + more) (warnings ++ others) where
  owned := by rw [second.owned, first.owned, Nat.add_assoc]
  statistics := by rw [second.statistics, first.statistics, Statistics.grant_grant]
  grows name := (first.grows name).trans (second.grows name)
  modules name := by
    have kept : typesOf middle.modules name ≠ [] → typesOf after.modules name ≠ [] := by
      intro holds empty
      have grown := second.grows name
      rw [empty] at grown
      exact holds (List.prefix_nil.mp grown)
    rw [second.modules, first.modules]
    tauto
  distinct agreed distinct := second.distinct (agrees agreed) (first.distinct agreed distinct)

/-! ## One request -/

theorem owned_assignModule {registry : Registry} (registered : id < registry.size)
    (unowned : registry.moduleOf? id = none) :
    (registry.assignModule id name).2.owned = registry.owned + 1 := by
  have found : registry.node? id = some registry.nodes[id] := List.getElem?_eq_getElem registered
  have free : registry.nodes[id].module = none := by
    rw [← Registry.moduleOf?_eq found]
    exact unowned
  have changed : registry.nodes.modify id (fun node => { node with module := some name }) =
      registry.nodes.set id { registry.nodes[id] with module := some name } := by
    rw [List.modify_eq_set_getElem?, List.getElem?_eq_getElem registered]
    rfl
  rw [Registry.assignModule_of_unowned registered unowned, Registry.owned, Registry.owned]
  dsimp only
  rw [changed, List.countP_set registered]
  simp [free]

theorem advances_assign (ground : Ground) (partition : Partition) (name : String) (id : TypeId) :
    ∃ granted, Advances ground partition (partition.assign ground.count name id) granted [] := by
  by_cases free : id < partition.registry.size ∧ partition.registry.moduleOf? id = none
  · rcases free with ⟨registered, unowned⟩
    refine ⟨1, ?_⟩
    rw [assign_of_unowned registered unowned]
    refine ⟨owned_assignModule registered unowned, ?_, ?_, ?_, ?_⟩
    · cases ground <;> simp [Ground.count, Statistics.grant, Statistics.countExplicitAssignment,
        Statistics.countReachabilityAssignment]
    · intro other
      rw [typesOf_addType]
      by_cases equal : other = name
      · rw [if_pos equal, equal]
        exact List.prefix_append _ _
      · rw [if_neg equal]
    · intro other
      rw [typesOf_addType, addType, NameMap.value?_alter]
      by_cases equal : other = name
      · simp [equal]
      · rw [if_neg equal, if_neg equal]
        exact ⟨.inl, fun holds => holds.elim (fun held => held) value?_isSome_of_typesOf⟩
    · intro agrees distinct other
      rw [typesOf_addType]
      by_cases equal : other = name
      · have absent : id ∉ typesOf partition.modules name := by
          rw [agrees, unowned]
          exact (Option.some_ne_none name).symm
        rw [if_pos equal, List.nodup_append]
        refine ⟨distinct name, List.nodup_singleton id, ?_⟩
        intro held inside last equal same
        rw [List.mem_singleton.mp equal] at same
        exact absent (same ▸ inside)
      · rw [if_neg equal]
        exact distinct other
  · have refused : partition.registry.assignModule id name = (false, partition.registry) := by
      by_cases registered : id < partition.registry.size
      · exact Registry.assignModule_of_owned fun unowned => free ⟨registered, unowned⟩
      · exact Registry.assignModule_of_unregistered (Nat.le_of_not_lt registered)
    rw [assign_of_refused refused]
    exact ⟨0, .still rfl rfl (Statistics.grant_nothing _ _).symm⟩

/-! ## All requests -/

theorem Advances.foldl {α : Type} {start : Partition} {step : Partition → α → Partition}
    {caution : α → List Warning} {entries : List α}
    (each : ∀ partition entry,
      partition.registry.withoutModules = start.registry.withoutModules →
        (∃ requests, Grants partition (step partition entry) requests) ∧
          ∃ granted, Advances ground partition (step partition entry) granted (caution entry))
    (same : partition.registry.withoutModules = start.registry.withoutModules) :
    ∃ granted,
      Advances ground partition (entries.foldl step partition) granted (entries.flatMap caution) := by
  induction entries generalizing partition with
  | nil => exact ⟨0, .still rfl rfl (Statistics.grant_nothing _ _).symm⟩
  | cons entry rest induction =>
      rcases each partition entry same with ⟨⟨requests, grants⟩, granted, here⟩
      rcases induction (grants.types.trans same) with ⟨more, there⟩
      exact ⟨granted + more, here.trans grants.agrees there⟩

/-- An entry of the configuration for a name that is not bound. -/
def unknownType? (registry : Registry) (type module : String) : Option Warning :=
  match registry.lookup? type with
  | some _ => none
  | none => some (.unknownConfiguredType type module)

theorem advances_assignConfigured (partition : Partition) (type module : String) :
    ∃ granted, Advances .configured partition (partition.assignConfigured type module) granted
      (unknownType? partition.registry type module).toList := by
  unfold assignConfigured unknownType?
  cases partition.registry.lookup? type with
  | some id => exact advances_assign .configured partition module id
  | none =>
      refine ⟨0, .still rfl rfl ?_⟩
      simp [Statistics.warn, Statistics.grant]

variable (config : Config) (start : Partition)

theorem advances_configured :
    ∃ granted, Advances .configured start (configured config start) granted
      (config.typeModules.entries.flatMap fun entry =>
        (unknownType? start.registry entry.1 entry.2).toList) := by
  have kept {partition : Partition} (type : String)
      (same : partition.registry.withoutModules = start.registry.withoutModules) :
      partition.registry.lookup? type = start.registry.lookup? type := by
    rw [← Registry.lookup?_withoutModules, same, Registry.lookup?_withoutModules]
  apply Advances.foldl
  · intro partition entry same
    rcases entry with ⟨type, module⟩
    have caution := advances_assignConfigured partition type module
    rw [unknownType?, kept type same] at caution
    exact ⟨⟨_, grants_assignConfigured partition type module⟩, caution⟩
  · rfl

theorem advances_assignReached (partition : Partition) (name : String) (ids : List TypeId) :
    ∃ granted, Advances .reached partition (partition.assignReached name ids) granted [] := by
  have folded : ∃ granted, Advances .reached partition (partition.assignReached name ids) granted
      (ids.flatMap fun _ => []) := by
    apply Advances.foldl
    · intro partition id _
      exact ⟨⟨_, grants_assign partition _ name id⟩, advances_assign .reached partition name id⟩
    · rfl
  rwa [List.flatMap_eq_nil_iff.mpr fun _ _ => rfl] at folded

theorem advances_assigned :
    ∃ granted, Advances .reached (configured config start) (assigned config start) granted [] := by
  have folded : ∃ granted, Advances .reached (configured config start) (assigned config start)
      granted ((configured config start).modules.entries.flatMap fun _ => []) := by
    apply Advances.foldl
    · intro partition entry _
      rcases entry with ⟨name, module⟩
      exact ⟨⟨_, grants_assignReached partition name _⟩, advances_assignReached partition name _⟩
    · rfl
  rwa [List.flatMap_eq_nil_iff.mpr fun _ _ => rfl] at folded

end Partition

/-! ## Lists in dependency order -/

theorem pairwise_idxOf {ids : List TypeId} (nodup : ids.Nodup) :
    ids.Pairwise fun left right => ids.idxOf left ≤ ids.idxOf right :=
  (pairwise_idxOf_of_sublist nodup (List.Sublist.refl ids)).imp Nat.le_of_lt

/-- Some of the types of an order, sorted by it, are what is left of the order without the
others. -/
theorem DependencyOrder.sort_eq_filter {dependencies : DependencyOrder} {ids : List TypeId}
    (nodup : dependencies.order.Nodup) (distinct : ids.Nodup) (inside : ids ⊆ dependencies.order) :
    dependencies.sort ids = dependencies.order.filter fun id => decide (id ∈ ids) := by
  apply mergeSort_idxOf_eq nodup List.filter_sublist
  refine (List.perm_ext_iff_of_nodup distinct (nodup.filter _)).mpr fun id => ?_
  simp only [List.mem_filter, decide_eq_true_eq]
  exact ⟨fun member => ⟨inside member, member⟩, fun both => both.2⟩

end ApiGraph
