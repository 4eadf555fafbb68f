import ApiGraph.Proofs.Partition.Assignment
import ApiGraph.Proofs.Renumbering.Registry

namespace ApiGraph

/-! # The history of a registry

A registry begins empty and is changed in four ways, in any order and as often as one likes. The
changes may name what they like, but the types that they speak of have to be there. What a registry
holds then is told by the changes themselves: names and modules are never taken back, and a type is
open until it is completed. -/

namespace Registry

inductive Change where
  | reserve (name : String)
  | complete (id : TypeId) (description : Option String) (shape : Shape TypeId)
  | bindAlias (name : String) (id : TypeId)
  | assignModule (id : TypeId) (module : String)

namespace Change

/-- The type that a change speaks of. -/
def id? : Change → Option TypeId
  | .reserve _ => none
  | .complete id _ _ => some id
  | .bindAlias _ id => some id
  | .assignModule id _ => some id

def Completes (id : TypeId) : Change → Prop
  | .complete target _ _ => target = id
  | _ => False

def Assigns (id : TypeId) : Change → Prop
  | .assignModule target _ => target = id
  | _ => False

theorem id?_of_completes {change : Change} {id : TypeId} (completes : change.Completes id) :
    change.id? = some id := by
  cases change with
  | complete target => exact congrArg some completes
  | _ => cases completes

theorem id?_of_assigns {change : Change} {id : TypeId} (assigns : change.Assigns id) :
    change.id? = some id := by
  cases change with
  | assignModule target => exact congrArg some assigns
  | _ => cases assigns

end Change

def apply (registry : Registry) : Change → Registry
  | .reserve name => (registry.reserve name).2
  | .complete id description shape => registry.complete id description shape
  | .bindAlias name id => (registry.bindAlias name id).2
  | .assignModule id module => (registry.assignModule id module).2

def applyAll (registry : Registry) (changes : List Change) : Registry :=
  changes.foldl apply registry

/-- Every change speaks of a type that is there when its turn comes. -/
def Admits (registry : Registry) : List Change → Prop
  | [] => True
  | change :: changes =>
      (∀ id ∈ change.id?, id ∈ registry.ids) ∧ (registry.apply change).Admits changes

variable {registry before middle after : Registry} {name : String} {id target : TypeId}
  {module : String} {change : Change} {changes earlier later past : List Change}

theorem mem_ids : id ∈ registry.ids ↔ id < registry.size := List.mem_range

theorem applyAll_append (registry : Registry) (earlier later : List Change) :
    registry.applyAll (earlier ++ later) = (registry.applyAll earlier).applyAll later :=
  List.foldl_append

theorem admits_append : registry.Admits (earlier ++ later) ↔
    registry.Admits earlier ∧ (registry.applyAll earlier).Admits later := by
  induction earlier generalizing registry with
  | nil => simp [Admits, applyAll]
  | cons change earlier induction =>
      rw [List.cons_append, Admits, Admits, induction, and_assoc]
      rfl

/-! ## What is never taken back -/

/-- Types keep their numbers, their names and their modules, and names keep their types. -/
structure Continues (before after : Registry) : Prop where
  names : before.names <+: after.names
  bindings : before.bindings <+: after.bindings
  moduleOf? : ∀ {id module}, before.moduleOf? id = some module → after.moduleOf? id = some module

namespace Continues

theorem refl (registry : Registry) : registry.Continues registry :=
  ⟨List.prefix_refl _, List.prefix_refl _, id⟩

theorem trans (first : before.Continues middle) (next : middle.Continues after) :
    before.Continues after :=
  ⟨first.names.trans next.names, first.bindings.trans next.bindings,
    fun owned => next.moduleOf? (first.moduleOf? owned)⟩

theorem of_extends (more : before.Extends after) : before.Continues after where
  names := more.nodes.map _
  bindings := more.bindings
  moduleOf? owned := by
    rcases Option.bind_eq_some_iff.mp owned with ⟨node, found, module⟩
    exact Option.bind_eq_some_iff.mpr ⟨node, more.node? found, module⟩

theorem size_le (continues : before.Continues after) : before.size ≤ after.size := by
  rw [← length_names, ← length_names]
  exact continues.names.length_le

theorem lookup? (continues : before.Continues after) (bound : before.lookup? name = some id) :
    after.lookup? name = some id := by
  rcases continues.bindings with ⟨added, equal⟩
  rw [Registry.lookup?, ← equal, Entries.value?_append, ← Registry.lookup?, bound]
  rfl

theorem nameOf (continues : before.Continues after) (registered : id < before.size) :
    after.nameOf id = before.nameOf id := by
  rcases continues.names with ⟨added, equal⟩
  rw [← length_names] at registered
  rw [nameOf_eq_getD, nameOf_eq_getD, ← equal, List.getElem?_append_left registered]

/-- New aliases come after the old ones, and an alias never becomes anything else. -/
theorem aliases (continues : before.Continues after) (indexed : before.Indexed) :
    before.aliases <+: after.aliases := by
  have same : before.aliases =
      before.bindings.filter fun binding => after.nameOf binding.2 != binding.1 := by
    apply List.filter_congr
    rintro ⟨name, id⟩ member
    have bound := Entries.value?_eq_some_of_mem indexed.distinct member
    simp only [continues.nameOf (indexed.registered bound)]
  rw [same]
  exact continues.bindings.filter _

end Continues

theorem names_assignModule :
    (registry.assignModule id module).2.names = registry.names := by
  have plain (registry : Registry) : registry.withoutModules.names = registry.names := by
    simp [withoutModules, names]
  rw [← plain, withoutModules_assignModule, plain]

theorem bindings_assignModule :
    (registry.assignModule id module).2.bindings = registry.bindings := by
  change (registry.assignModule id module).2.withoutModules.bindings = _
  rw [withoutModules_assignModule]
  rfl

theorem pending_assignModule :
    (registry.assignModule id module).2.pending = registry.pending := by
  change (registry.assignModule id module).2.withoutModules.pending = _
  rw [withoutModules_assignModule]
  rfl

theorem moduleOf?_complete {description : Option String} {shape : Shape TypeId} :
    (registry.complete id description shape).moduleOf? target = registry.moduleOf? target := by
  rw [moduleOf?, moduleOf?, node?_complete]
  split
  · cases registry.node? target <;> rfl
  · rfl

/-- Whether or not it is granted, an assignment only counts for a type that is free. -/
theorem moduleOf?_assignModule_eq_or (registered : target < registry.size) :
    (registry.assignModule id module).2.moduleOf? target =
      (registry.moduleOf? target).or (if target = id then some module else none) := by
  by_cases free : id < registry.size ∧ registry.moduleOf? id = none
  · rw [moduleOf?_assignModule free.1 free.2]
    by_cases equal : target = id
    · rw [if_pos equal, if_pos equal, equal, free.2, Option.none_or]
    · rw [if_neg equal, if_neg equal, Option.or_none]
  · have refused : registry.assignModule id module = (false, registry) := by
      by_cases inside : id < registry.size
      · exact assignModule_of_owned fun unowned => free ⟨inside, unowned⟩
      · exact assignModule_of_unregistered (Nat.le_of_not_lt inside)
    rw [refused]
    by_cases equal : target = id
    · have owned : registry.moduleOf? target ≠ none :=
        fun unowned => free ⟨equal ▸ registered, equal ▸ unowned⟩
      rcases Option.ne_none_iff_exists'.mp owned with ⟨name, owned⟩
      rw [owned, Option.some_or]
    · rw [if_neg equal, Option.or_none]

theorem continues_apply (registry : Registry) (change : Change) :
    registry.Continues (registry.apply change) := by
  cases change with
  | reserve name => exact .of_extends (registry.extends_reserve name)
  | bindAlias name id => exact .of_extends (registry.extends_bindAlias name id)
  | complete id description shape =>
      refine ⟨names_complete ▸ List.prefix_refl _, List.prefix_refl _, fun owned => ?_⟩
      exact moduleOf?_complete.trans owned
  | assignModule id module =>
      refine ⟨names_assignModule ▸ List.prefix_refl _, bindings_assignModule ▸ List.prefix_refl _,
        fun owned => ?_⟩
      rw [apply, moduleOf?_assignModule_eq_or (lt_size_of_moduleOf? owned), owned, Option.some_or]

theorem continues_applyAll (registry : Registry) (changes : List Change) :
    registry.Continues (registry.applyAll changes) := by
  induction changes generalizing registry with
  | nil => exact .refl registry
  | cons change changes induction => exact (continues_apply registry change).trans (induction _)

/-! ## One change -/

theorem indexed_apply (indexed : registry.Indexed)
    (minted : ∀ id ∈ change.id?, id < registry.size) : (registry.apply change).Indexed := by
  cases change with
  | reserve name => exact indexed.reserve name
  | complete id description shape => exact indexed.of_names_eq names_complete rfl
  | bindAlias name id => exact indexed.bindAlias name (minted id rfl)
  | assignModule id module => exact indexed.of_names_eq names_assignModule bindings_assignModule

theorem mem_pending_apply (registered : id < registry.size) :
    id ∈ (registry.apply change).pending ↔ id ∈ registry.pending ∧ ¬change.Completes id := by
  cases change with
  | reserve name =>
      cases held : registry.lookup? name with
      | some bound => simp [apply, reserve_of_bound held, Change.Completes]
      | none =>
          simp [apply, reserve_of_fresh held, Change.Completes, Nat.ne_of_lt registered]
  | complete target description shape =>
      simp only [apply, complete, List.mem_filter, bne_iff_ne, Change.Completes]
      exact and_congr_right' ne_comm
  | bindAlias name target =>
      rw [apply, bindAlias]
      split <;> simp [Change.Completes]
  | assignModule target module =>
      simp [apply, pending_assignModule, Change.Completes]

theorem moduleOf?_apply_eq_none_iff (registered : id < registry.size) :
    (registry.apply change).moduleOf? id = none ↔
      registry.moduleOf? id = none ∧ ¬change.Assigns id := by
  cases change with
  | reserve name =>
      cases held : registry.lookup? name with
      | some bound => simp [apply, reserve_of_bound held, Change.Assigns]
      | none =>
          simp [apply, moduleOf?, node?_reserve held, Change.Assigns, Nat.ne_of_lt registered]
  | complete target description shape =>
      simp [apply, moduleOf?_complete, Change.Assigns]
  | bindAlias name target =>
      rw [apply, bindAlias]
      split <;> simp [Change.Assigns, moduleOf?, node?]
  | assignModule target module =>
      rw [apply, moduleOf?_assignModule_eq_or registered, Option.or_eq_none_iff]
      simp [Change.Assigns, eq_comm]

/-- A type that is new after a change is the answer to it, and nothing is known of it. -/
theorem fresh_apply (unregistered : registry.size ≤ id)
    (registered : id < (registry.apply change).size) :
    (∃ name, change = .reserve name ∧ (registry.reserve name).1 = id) ∧
      id ∈ (registry.apply change).pending ∧ (registry.apply change).moduleOf? id = none := by
  have grown : registry.size < (registry.apply change).size :=
    Nat.lt_of_le_of_lt unregistered registered
  cases change with
  | reserve name =>
      cases held : registry.lookup? name with
      | some bound =>
          rw [apply, reserve_of_bound held] at grown
          exact absurd grown (Nat.lt_irrefl _)
      | none =>
          rw [apply, size_reserve held] at registered
          have last : id = registry.size :=
            Nat.le_antisymm (Nat.lt_succ_iff.mp registered) unregistered
          subst last
          refine ⟨⟨name, rfl, ?_⟩, ?_, ?_⟩
          · rw [reserve_of_fresh held]
          · simp [apply, reserve_of_fresh held]
          · simp [apply, moduleOf?, node?_reserve held]
  | complete target description shape =>
      rw [apply, size_complete] at grown
      exact absurd grown (Nat.lt_irrefl _)
  | bindAlias name target =>
      have same : (registry.bindAlias name target).2.size = registry.size := by
        rw [bindAlias]
        split <;> rfl
      exact absurd grown (same ▸ Nat.lt_irrefl _)
  | assignModule target module =>
      have same : (registry.assignModule target module).2.size = registry.size := by
        rw [← length_names, names_assignModule, length_names]
      exact absurd grown (same ▸ Nat.lt_irrefl _)

/-! ## What the changes tell -/

/-- The registry that has come about by certain changes. -/
structure Reflects (registry : Registry) (past : List Change) : Prop where
  indexed : registry.Indexed
  spoken : ∀ change ∈ past, ∀ id ∈ change.id?, id < registry.size
  pending : ∀ id < registry.size,
    (id ∈ registry.pending ↔ ∀ change ∈ past, ¬change.Completes id)
  unowned : ∀ id < registry.size,
    (registry.moduleOf? id = none ↔ ∀ change ∈ past, ¬change.Assigns id)

theorem reflects_empty : Registry.empty.Reflects [] where
  indexed := indexed_empty
  spoken change member := by cases member
  pending id registered := by cases registered
  unowned id registered := by cases registered

theorem Reflects.apply (reflects : registry.Reflects past)
    (minted : ∀ id ∈ change.id?, id < registry.size) :
    (registry.apply change).Reflects (past ++ [change]) := by
  have spoken : ∀ other ∈ past ++ [change], ∀ id ∈ other.id?, id < registry.size :=
    List.forall_mem_append.mpr ⟨reflects.spoken, List.forall_mem_singleton.mpr minted⟩
  refine ⟨indexed_apply reflects.indexed minted, ?_, ?_, ?_⟩
  · intro other member id speaks
    exact Nat.lt_of_lt_of_le (spoken other member id speaks) (continues_apply registry change).size_le
  · intro id registered
    by_cases before : id < registry.size
    · rw [mem_pending_apply before, reflects.pending id before, List.forall_mem_append,
        List.forall_mem_singleton]
    · have isOpen := (fresh_apply (Nat.le_of_not_lt before) registered).2.1
      refine iff_of_true isOpen fun other member completes => before ?_
      exact spoken other member id (Change.id?_of_completes completes)
  · intro id registered
    by_cases before : id < registry.size
    · rw [moduleOf?_apply_eq_none_iff before, reflects.unowned id before, List.forall_mem_append,
        List.forall_mem_singleton]
    · have free := (fresh_apply (Nat.le_of_not_lt before) registered).2.2
      refine iff_of_true free fun other member assigns => before ?_
      exact spoken other member id (Change.id?_of_assigns assigns)

theorem Reflects.applyAll (reflects : registry.Reflects past) (minted : registry.Admits changes) :
    (registry.applyAll changes).Reflects (past ++ changes) := by
  induction changes generalizing registry past with
  | nil =>
      rw [List.append_nil]
      exact reflects
  | cons change changes induction =>
      have step := reflects.apply fun id speaks => mem_ids.mp (minted.1 id speaks)
      rw [List.append_cons]
      exact induction step minted.2

theorem reflects_applyAll (minted : Registry.empty.Admits changes) :
    (Registry.empty.applyAll changes).Reflects changes :=
  reflects_empty.applyAll minted

/-! ## Numbers and answers -/

theorem reserve_lt_size (indexed : registry.Indexed) (name : String) :
    (registry.reserve name).1 < (registry.reserve name).2.size := by
  cases held : registry.lookup? name with
  | some id =>
      rw [reserve_of_bound held]
      exact indexed.registered held
  | none =>
      rw [size_reserve held, reserve_of_fresh held]
      exact Nat.lt_succ_self _

/-- Every new type was the answer to a change. -/
theorem exists_reserve (unregistered : registry.size ≤ id)
    (registered : id < (registry.applyAll changes).size) :
    ∃ earlier name later, changes = earlier ++ .reserve name :: later ∧
      ((registry.applyAll earlier).reserve name).1 = id := by
  induction changes generalizing registry with
  | nil => exact absurd registered (Nat.not_lt_of_le unregistered)
  | cons change changes induction =>
      by_cases here : id < (registry.apply change).size
      · rcases (fresh_apply unregistered here).1 with ⟨name, rfl, answer⟩
        exact ⟨[], name, changes, rfl, answer⟩
      · rcases induction (Nat.le_of_not_lt here) registered with ⟨earlier, name, later, rfl, answer⟩
        exact ⟨change :: earlier, name, later, rfl, answer⟩

theorem assignModule_granted_iff (registered : id < registry.size) (module : String) :
    (registry.assignModule id module).1 = true ↔ registry.moduleOf? id = none := by
  by_cases unowned : registry.moduleOf? id = none
  · rw [assignModule_of_unowned registered unowned]
    exact iff_of_true rfl unowned
  · rw [assignModule_of_owned unowned]
    exact iff_of_false Bool.false_ne_true unowned

theorem Indexed.sortedIds_increasing (indexed : registry.Indexed) :
    registry.sortedIds.Pairwise fun left right => registry.nameOf left < registry.nameOf right := by
  have sorted : (registry.sortedIds.map registry.nameOf).Perm registry.names := by
    rw [← map_nameOf_ids]
    exact (sortByName_perm registry.ids).map _
  have distinct := List.pairwise_map.mp (sorted.nodup_iff.mpr indexed.nodup_names)
  exact ((pairwise_sortByName registry registry.ids).and distinct).imp fun ordered =>
    Std.lt_of_le_of_ne ordered.1 ordered.2

/-- Whatever changes a registry has gone through, as long as they spoke of types that were there:

Types are numbered from zero as they were handed out, their names differ, and each is found under its
own name. At no time has a name been bound to another type, a module been replaced or an alias been
moved. There are as many bound names as types and aliases, and the aliases are the names that are
bound to a type of another name. Nothing changes when a bound name is reserved or made an alias. A
type is open until it is completed, has no module until it is assigned to one, and only the first
assignment is granted. In the order of names, every type stands once. -/
theorem applyAll_invariant (changes : List Change) (minted : Registry.empty.Admits changes) :
    let registry := Registry.empty.applyAll changes
    (registry.ids = List.range registry.size ∧
        ∀ id, id ∈ registry.ids ↔ ∃ earlier name later,
          changes = earlier ++ .reserve name :: later ∧
            ((Registry.empty.applyAll earlier).reserve name).1 = id) ∧
      (registry.names.Nodup ∧
        ∀ id node, registry.node? id = some node → registry.lookup? node.name = some id) ∧
      (∀ earlier later, changes = earlier ++ later →
        let before := Registry.empty.applyAll earlier
        (∀ name id, before.lookup? name = some id → registry.lookup? name = some id) ∧
          (∀ id module, before.moduleOf? id = some module → registry.moduleOf? id = some module) ∧
          before.aliases <+: registry.aliases) ∧
      ((Entries.names registry.bindings).Nodup ∧
        registry.bindings.length = registry.size + registry.aliases.length ∧
        ∀ name id, (name, id) ∈ registry.aliases ↔
          registry.lookup? name = some id ∧ registry.nameOf id ≠ name) ∧
      (∀ name id, registry.lookup? name = some id → registry.reserve name = (id, registry) ∧
        ∀ other, registry.bindAlias name other = (false, registry)) ∧
      (∀ id ∈ registry.ids,
        (registry.isPending id = true ↔ ∀ change ∈ changes, ¬change.Completes id) ∧
          (registry.moduleOf? id = none ↔ ∀ change ∈ changes, ¬change.Assigns id)) ∧
      (∀ earlier id module later, changes = earlier ++ .assignModule id module :: later →
        let granted := ((Registry.empty.applyAll earlier).assignModule id module).1
        (granted = true ↔ ∀ change ∈ earlier, ¬change.Assigns id) ∧
          (granted = true → registry.moduleOf? id = some module)) ∧
      registry.sortedIds.Perm registry.ids ∧
        registry.sortedIds.Pairwise fun left right =>
          registry.nameOf left < registry.nameOf right := by
  intro registry
  have reflects : registry.Reflects changes := reflects_applyAll minted
  have indexed := reflects.indexed
  refine ⟨⟨rfl, ?_⟩, ⟨indexed.nodup_names, fun _ _ => indexed.named⟩, ?_,
    ⟨indexed.distinct, indexed.length_bindings, fun _ _ => mem_aliases_iff indexed.distinct⟩, ?_, ?_,
    ?_, sortByName_perm _, indexed.sortedIds_increasing⟩
  · intro id
    rw [mem_ids]
    constructor
    · exact exists_reserve (Nat.zero_le id)
    · rintro ⟨earlier, name, later, rfl, rfl⟩
      have before := (reflects_applyAll (admits_append.mp minted).1).indexed
      have whole : registry =
          ((Registry.empty.applyAll earlier).reserve name).2.applyAll later :=
        applyAll_append _ _ _
      rw [whole]
      exact Nat.lt_of_lt_of_le (reserve_lt_size before name) (continues_applyAll _ later).size_le
  · rintro earlier later rfl before
    have whole : registry = before.applyAll later := applyAll_append _ _ _
    have continues : before.Continues registry := whole ▸ continues_applyAll before later
    have indexed : before.Indexed := (reflects_applyAll (admits_append.mp minted).1).indexed
    exact ⟨fun _ _ => continues.lookup?, fun _ _ => continues.moduleOf?, continues.aliases indexed⟩
  · intro name id bound
    exact ⟨reserve_of_bound bound, fun other => bindAlias_of_bound (by simp [bound])⟩
  · intro id member
    have registered := mem_ids.mp member
    refine ⟨?_, reflects.unowned id registered⟩
    rw [isPending, List.contains_iff_mem]
    exact reflects.pending id registered
  · rintro earlier id module later rfl granted
    have parts := admits_append.mp minted
    have before := reflects_applyAll parts.1
    have registered := mem_ids.mp (parts.2.1 id rfl)
    have free := assignModule_granted_iff registered module
    refine ⟨free.trans (before.unowned id registered), fun holds => ?_⟩
    have whole : registry =
        ((Registry.empty.applyAll earlier).assignModule id module).2.applyAll later :=
      applyAll_append _ _ _
    rw [whole]
    apply (continues_applyAll _ later).moduleOf?
    rw [moduleOf?_assignModule_eq_or registered, free.mp holds, if_pos rfl, Option.none_or]

/-- Names and modules are asked for again, by an alias too, and are not given away. -/
def contested : List Change := [
  .reserve "Pet",
  .bindAlias "Animal" 0,
  .reserve "Animal",
  .reserve "Ant",
  .bindAlias "Pet" 1,
  .complete 1 none (.array (.named 0)),
  .assignModule 0 "zoo",
  .assignModule 0 "pets"]

theorem applyAll_invariant_contested :
    let registry := Registry.empty.applyAll contested
    Registry.empty.Admits contested ∧ registry.lookup? "Animal" = some 0 ∧
      registry.bindings.length = registry.size + registry.aliases.length ∧
      registry.isPending 0 = true ∧ registry.isPending 1 ≠ true ∧
      registry.moduleOf? 0 = some "zoo" ∧ registry.moduleOf? 1 = none ∧
      registry.sortedIds.Pairwise fun left right =>
        registry.nameOf left < registry.nameOf right := by
  have minted : Registry.empty.Admits contested := by
    simp [Admits, contested, Change.id?, apply, mem_ids, reserve, bindAlias, complete, assignModule,
      lookup?, isBound, node?, size, empty, Entries.value?]
  rcases applyAll_invariant contested minted with
    ⟨_, _, kept, ⟨_, counted, _⟩, _, known, assigned, _, sorted⟩
  have pet := known 0 (by decide)
  have ant := known 1 (by decide)
  refine ⟨minted, ?_, counted, ?_, ?_, ?_, ?_, sorted⟩
  · exact (kept (contested.take 2) (contested.drop 2) rfl).1 "Animal" 0 (by cbv)
  · rw [pet.1]
    simp [contested, Change.Completes]
  · rw [ne_eq, ant.1]
    simp [contested, Change.Completes]
  · have zoo := assigned (contested.take 6) 0 "zoo" _ rfl
    exact zoo.2 (zoo.1.mpr (by simp [contested, Change.Assigns]))
  · rw [ant.2]
    simp [contested, Change.Assigns]

end Registry

end ApiGraph
