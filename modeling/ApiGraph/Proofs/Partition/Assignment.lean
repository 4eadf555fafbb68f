import ApiGraph.Proofs.NameMap
import ApiGraph.Proofs.Registry
import ApiGraph.Partition

namespace ApiGraph

/-! # The assignment of types to modules

The partition is one long sequence of requests of modules for types, first those of the
configuration and then those of what modules reach. The first request for a type is granted and all
later ones are not. This file reduces the partition to its requests; nothing in it depends on where
they come from. -/

namespace Registry

variable {registry : Registry} {id target : TypeId} {node : TypeNode} {module : String}

def moduleOf? (registry : Registry) (id : TypeId) : Option String :=
  (registry.node? id).bind (·.module)

/-- The registry before any type was assigned to a module. -/
def withoutModules (registry : Registry) : Registry :=
  { registry with nodes := registry.nodes.map fun node => { node with module := none } }

@[simp] theorem lookup?_withoutModules (name : String) :
    registry.withoutModules.lookup? name = registry.lookup? name := rfl

@[simp] theorem size_withoutModules : registry.withoutModules.size = registry.size := by
  simp [withoutModules, size]

@[simp] theorem node?_withoutModules (id : TypeId) :
    registry.withoutModules.node? id =
      (registry.node? id).map fun node => { node with module := none } := by
  simp [withoutModules, node?]

theorem moduleOf?_eq (found : registry.node? id = some node) :
    registry.moduleOf? id = node.module := by
  rw [moduleOf?, found, Option.bind_some]

theorem lt_size_of_moduleOf? {name : String} (owned : registry.moduleOf? id = some name) :
    id < registry.size := by
  rcases Option.bind_eq_some_iff.mp owned with ⟨node, found, _⟩
  exact lt_size_of_node? found

theorem moduleOf?_of_unregistered (unregistered : ¬id < registry.size) :
    registry.moduleOf? id = none := by
  cases owned : registry.moduleOf? id with
  | none => rfl
  | some name => exact absurd (lt_size_of_moduleOf? owned) unregistered

theorem assignModule_of_owned (owned : registry.moduleOf? id ≠ none) :
    registry.assignModule id module = (false, registry) := by
  cases found : registry.node? id with
  | none => simp [moduleOf?, found] at owned
  | some node =>
      rw [moduleOf?_eq found] at owned
      have held : node.module.isSome := Option.isSome_iff_ne_none.mpr owned
      simp only [assignModule, found, held, if_true]

theorem assignModule_of_unregistered (unregistered : registry.size ≤ id) :
    registry.assignModule id module = (false, registry) := by
  have missing : registry.node? id = none := List.getElem?_eq_none unregistered
  simp only [assignModule, missing]

theorem assignModule_of_unowned (registered : id < registry.size)
    (unowned : registry.moduleOf? id = none) :
    registry.assignModule id module = (true, { registry with
      nodes := registry.nodes.modify id fun node => { node with module := some module } }) := by
  have found : registry.node? id = some registry.nodes[id] := List.getElem?_eq_getElem registered
  rw [moduleOf?_eq found] at unowned
  simp [assignModule, found, unowned]

theorem moduleOf?_assignModule (registered : id < registry.size)
    (unowned : registry.moduleOf? id = none) :
    (registry.assignModule id module).2.moduleOf? target =
      if target = id then some module else registry.moduleOf? target := by
  rw [assignModule_of_unowned registered unowned]
  simp only [moduleOf?, node?, List.getElem?_modify]
  by_cases equal : target = id
  · have found : registry.nodes[id]? = some registry.nodes[id] :=
      List.getElem?_eq_getElem registered
    simp [equal, found]
  · have different : id ≠ target := Ne.symm equal
    simp [equal, different]

theorem withoutModules_assignModule :
    (registry.assignModule id module).2.withoutModules = registry.withoutModules := by
  unfold assignModule
  split
  next node found =>
    split
    · rfl
    · simp only [withoutModules]
      congr 1
      apply List.ext_getElem?
      intro index
      simp only [List.getElem?_map, List.getElem?_modify]
      cases registry.nodes[index]? with
      | none => rfl
      | some node =>
          by_cases equal : id = index
          · simp [equal]
          · simp [equal]
  next => rfl

end Registry

/-! ## The names of modules -/

/-- Modules have the names that they are kept under. -/
def ModuleMap.Named (modules : ModuleMap) : Prop :=
  ∀ name module, modules.value? name = some module → module.name = name

theorem ModuleMap.named_empty : Named .empty := by
  intro name module found
  cases found

/-- A module that is made for a name has that name, and a change of a module leaves its name. -/
theorem ModuleMap.Named.alter {modules : ModuleMap} {name : String}
    {change : Option Module → Module} (named : modules.Named)
    (kept : ∀ module?, (change module?).name = (module?.getD { name := name }).name) :
    Named (modules.alter name change) := by
  intro other module found
  rw [NameMap.value?_alter] at found
  by_cases equal : other = name
  · rw [if_pos equal] at found
    cases found
    rw [kept, equal]
    cases held : modules.value? name with
    | none => rfl
    | some module => exact named name module held
  · rw [if_neg equal] at found
    exact named other module found

/-! ## The types and handlers of a module -/

namespace Partition

def partOf {α : Type} (part : Module → List α) (modules : ModuleMap) (name : String) : List α :=
  ((modules.value? name).map part).getD []

abbrev typesOf : ModuleMap → String → List TypeId := partOf Module.types

abbrev handlersOf : ModuleMap → String → List Handler := partOf Module.handlers

section PartOf

variable {α : Type} {part : Module → List α} {modules : ModuleMap} {name other : String}
  {change : Option Module → Module}

theorem mem_partOf {value : α} :
    value ∈ partOf part modules name ↔
      ∃ module, modules.value? name = some module ∧ value ∈ part module := by
  rw [partOf]
  cases modules.value? name <;> simp

/-- A module that gets something at the end of one of its parts. -/
theorem partOf_alter {added : List α} (fresh : Module) (empty : part fresh = [])
    (changed : ∀ module?, part (change module?) = part (module?.getD fresh) ++ added) :
    partOf part (modules.alter name change) other =
      if other = name then partOf part modules name ++ added else partOf part modules other := by
  rw [partOf, NameMap.value?_alter]
  by_cases equal : other = name
  · rw [if_pos equal, if_pos equal, Option.map_some, Option.getD_some, changed, partOf]
    cases modules.value? name <;> simp [empty]
  · rw [if_neg equal, if_neg equal, partOf]

/-- A change of a module that leaves one of its parts alone. -/
theorem partOf_alter_of_kept (fresh : Module) (empty : part fresh = [])
    (kept : ∀ module?, part (change module?) = part (module?.getD fresh)) :
    partOf part (modules.alter name change) other = partOf part modules other := by
  have unchanged : ∀ module?, part (change module?) = part (module?.getD fresh) ++ [] := by
    intro module?
    rw [kept, List.append_nil]
  rw [partOf_alter fresh empty unchanged]
  by_cases equal : other = name
  · rw [if_pos equal, equal, List.append_nil]
  · rw [if_neg equal]

end PartOf

variable {modules : ModuleMap} {name other : String} {id : TypeId}

theorem typesOf_addType :
    typesOf (addType modules name id) other =
      if other = name then typesOf modules name ++ [id] else typesOf modules other :=
  partOf_alter { name := name } rfl fun _ => rfl

theorem handlersOf_addType :
    handlersOf (addType modules name id) other = handlersOf modules other :=
  partOf_alter_of_kept { name := name } rfl fun _ => rfl

theorem named_addType (named : modules.Named) : ModuleMap.Named (addType modules name id) :=
  named.alter fun _ => rfl

/-! ## Requests -/

/-- The module that asks for a type first. -/
def firstRequest (requests : List (String × TypeId)) (id : TypeId) : Option String :=
  (requests.find? fun request => request.2 == id).map Prod.fst

theorem firstRequest_append (first second : List (String × TypeId)) (id : TypeId) :
    firstRequest (first ++ second) id = (firstRequest first id).or (firstRequest second id) := by
  rw [firstRequest, List.find?_append, Option.map_or]
  rfl

/-- The modules hold the types that the registry says they own. -/
def Agrees (partition : Partition) : Prop :=
  ∀ name id, id ∈ typesOf partition.modules name ↔ partition.registry.moduleOf? id = some name

/-- The second partition is the first one after some requests. -/
structure Grants (before after : Partition) (requests : List (String × TypeId)) : Prop where
  types : after.registry.withoutModules = before.registry.withoutModules
  owner : ∀ id < before.registry.size, after.registry.moduleOf? id =
    (before.registry.moduleOf? id).or (firstRequest requests id)
  handlers : ∀ name, handlersOf after.modules name = handlersOf before.modules name
  agrees : before.Agrees → after.Agrees
  named : before.modules.Named → after.modules.Named

variable {before middle after partition : Partition} {first second : List (String × TypeId)}

theorem Grants.size (grants : Grants before after first) :
    after.registry.size = before.registry.size := by
  rw [← Registry.size_withoutModules, grants.types, Registry.size_withoutModules]

/-- A change of neither the registry nor the modules. -/
theorem Grants.still (registry : after.registry = before.registry)
    (modules : after.modules = before.modules) : Grants before after [] where
  types := by rw [registry]
  owner id _ := by rw [registry, firstRequest, List.find?_nil, Option.map_none, Option.or_none]
  handlers _ := by rw [modules]
  agrees agrees := by
    unfold Agrees
    rw [registry, modules]
    exact agrees
  named named := by rwa [modules]

theorem Grants.trans (left : Grants before middle first) (right : Grants middle after second) :
    Grants before after (first ++ second) where
  types := right.types.trans left.types
  owner id registered := by
    rw [right.owner id (left.size ▸ registered), left.owner id registered, firstRequest_append,
      Option.or_assoc]
  handlers name := (right.handlers name).trans (left.handlers name)
  agrees agrees := right.agrees (left.agrees agrees)
  named named := right.named (left.named named)

theorem Grants.foldl {α : Type} {start : Partition} {step : Partition → α → Partition}
    {requests : α → List (String × TypeId)} {entries : List α}
    (each : ∀ partition entry,
      partition.registry.withoutModules = start.registry.withoutModules →
        Grants partition (step partition entry) (requests entry))
    (same : partition.registry.withoutModules = start.registry.withoutModules) :
    Grants partition (entries.foldl step partition) (entries.flatMap requests) := by
  induction entries generalizing partition with
  | nil => exact .still rfl rfl
  | cons entry rest induction =>
      have first := each partition entry same
      rw [List.foldl_cons, List.flatMap_cons]
      exact first.trans (induction (first.types.trans same))

/-! ## One request -/

theorem firstRequest_map (name : String) (ids : List TypeId) (id : TypeId) :
    firstRequest (ids.map fun target => (name, target)) id =
      if id ∈ ids then some name else none := by
  induction ids with
  | nil => rfl
  | cons first rest induction =>
      rw [firstRequest] at induction ⊢
      by_cases equal : first = id
      · simp [equal]
      · have different : id ≠ first := Ne.symm equal
        rw [List.map_cons, List.find?_cons_of_neg (by simpa using equal), induction]
        simp [different]

theorem assign_of_refused {count : Statistics → Statistics}
    (refused : partition.registry.assignModule id name = (false, partition.registry)) :
    partition.assign count name id = partition := by
  simp only [assign, refused]

theorem assign_of_unowned {count : Statistics → Statistics}
    (registered : id < partition.registry.size)
    (unowned : partition.registry.moduleOf? id = none) :
    partition.assign count name id = {
      registry := (partition.registry.assignModule id name).2
      modules := addType partition.modules name id
      statistics := count partition.statistics } := by
  simp only [assign, Registry.assignModule_of_unowned registered unowned]

/-- A module that is given a free type holds it, and no module held it before. -/
theorem Agrees.assign {count : Statistics → Statistics} (agrees : partition.Agrees)
    (registered : id < partition.registry.size)
    (unowned : partition.registry.moduleOf? id = none) :
    (partition.assign count name id).Agrees := by
  intro other target
  rw [assign_of_unowned registered unowned, typesOf_addType,
    Registry.moduleOf?_assignModule registered unowned]
  by_cases equal : target = id
  · rw [if_pos equal, equal]
    by_cases same : other = name
    · simp [same]
    · have held := (not_congr (agrees other id)).mpr (by simp [unowned])
      have different : name ≠ other := Ne.symm same
      simp [same, held, different]
  · rw [if_neg equal, ← agrees other target]
    by_cases same : other = name
    · simp [same, equal]
    · simp [same]

theorem grants_assign (partition : Partition) (count : Statistics → Statistics) (name : String)
    (id : TypeId) : Grants partition (partition.assign count name id) [(name, id)] := by
  have asked (target : TypeId) :
      firstRequest [(name, id)] target = if target = id then some name else none := by
    simpa using firstRequest_map name [id] target
  by_cases registered : id < partition.registry.size
  · by_cases unowned : partition.registry.moduleOf? id = none
    · refine ⟨?_, ?_, ?_, fun agrees => agrees.assign registered unowned, ?_⟩
      · rw [assign_of_unowned registered unowned]
        exact Registry.withoutModules_assignModule
      · intro target _
        rw [assign_of_unowned registered unowned, asked]
        dsimp only
        rw [Registry.moduleOf?_assignModule registered unowned]
        by_cases equal : target = id
        · simp [equal, unowned]
        · simp [equal]
      · intro other
        rw [assign_of_unowned registered unowned]
        exact handlersOf_addType
      · intro named
        rw [assign_of_unowned registered unowned]
        exact named_addType named
    · rw [assign_of_refused (Registry.assignModule_of_owned unowned)]
      refine ⟨rfl, ?_, fun _ => rfl, fun agrees => agrees, fun named => named⟩
      intro target _
      rw [asked]
      by_cases equal : target = id
      · rcases Option.ne_none_iff_exists'.mp unowned with ⟨owner, owned⟩
        simp [equal, owned]
      · simp [equal]
  · rw [assign_of_refused (Registry.assignModule_of_unregistered (Nat.le_of_not_lt registered))]
    refine ⟨rfl, ?_, fun _ => rfl, fun agrees => agrees, fun named => named⟩
    intro target inside
    have different : target ≠ id := by
      intro equal
      exact registered (equal ▸ inside)
    rw [asked, if_neg different, Option.or_none]

/-! ## All requests -/

theorem grants_assignConfigured (partition : Partition) (type module : String) :
    Grants partition (partition.assignConfigured type module)
      ((partition.registry.lookup? type).toList.map fun id => (module, id)) := by
  unfold assignConfigured
  split
  next id bound =>
    rw [bound]
    exact grants_assign partition _ module id
  next unbound =>
    rw [unbound]
    exact .still rfl rfl

theorem grants_assignReached (partition : Partition) (name : String) (ids : List TypeId) :
    Grants partition (partition.assignReached name ids) (ids.map fun id => (name, id)) := by
  rw [List.map_eq_flatMap, assignReached]
  apply Grants.foldl
  · intro partition id _
    exact grants_assign partition _ name id
  · rfl

/-- The first of several parties that ask for a type. -/
theorem firstRequest_flatMap {α : Type} (owner : α → String) (targets : α → List TypeId)
    (entries : List α) (id : TypeId) :
    firstRequest (entries.flatMap fun entry => (targets entry).map fun target =>
        (owner entry, target)) id =
      (entries.find? fun entry => (targets entry).contains id).map owner := by
  induction entries with
  | nil => rfl
  | cons entry rest induction =>
      rw [List.flatMap_cons, firstRequest_append, firstRequest_map, induction, List.find?_cons]
      by_cases member : id ∈ targets entry
      · simp [member]
      · simp [member]

/-- The partition when the configuration has been carried out. -/
def configured (config : Config) (start : Partition) : Partition :=
  config.typeModules.entries.foldl
    (fun partition (type, module) => partition.assignConfigured type module) start

variable (config : Config) (start : Partition)

theorem grants_configured :
    Grants start (configured config start) (config.typeModules.entries.flatMap fun entry =>
      (start.registry.lookup? entry.1).toList.map fun id => (entry.2, id)) := by
  apply Grants.foldl
  · intro partition entry same
    rcases entry with ⟨type, module⟩
    have kept : start.registry.lookup? type = partition.registry.lookup? type := by
      rw [← Registry.lookup?_withoutModules, ← same, Registry.lookup?_withoutModules]
    rw [kept]
    exact grants_assignConfigured partition type module
  · rfl

/-- The partition when every module has been given what it reaches. -/
def assigned (config : Config) (start : Partition) : Partition :=
  (configured config start).modules.entries.foldl
    (fun partition (name, module) => partition.assignReached name
      (reached (TypeGraph.ofRegistry (configured config start).registry) module))
    (configured config start)

theorem grants_assigned :
    Grants (configured config start) (assigned config start)
      ((configured config start).modules.entries.flatMap fun entry =>
        (reached (TypeGraph.ofRegistry (configured config start).registry) entry.2).map fun id =>
          (entry.1, id)) := by
  apply Grants.foldl
  · intro partition entry _
    rcases entry with ⟨name, module⟩
    exact grants_assignReached partition name _
  · rfl

theorem exists_grants :
    ∃ requests, Grants start (assigned config start) requests :=
  ⟨_, (grants_configured config start).trans (grants_assigned config start)⟩

end Partition

end ApiGraph
