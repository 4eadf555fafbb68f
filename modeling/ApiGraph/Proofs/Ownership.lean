import ApiGraph.Proofs.Build
import ApiGraph.Proofs.Partition.Ownership
import Mathlib

namespace ApiGraph

/-! # The modules of a build

The partition begins with types that nothing owns and with modules that hold nothing but the handlers
of their operations. What it is told by the configuration, and what the handlers reach, can be read
off the result as well, so the owners can be explained without it. -/

open ApiGraph.Partition

namespace Build.Arises

variable {document : Document} {config : Config} {progress : Progress} {grouped : ModuleMap}
  {result : Build} (arises : result.Arises document config progress grouped)

include arises

theorem reaches (name : String) (id : TypeId) :
    result.Reaches name id ↔ (partitionStart progress grouped).Reaches name id := by
  rcases exists_grants config (partitionStart progress grouped) with ⟨requests, grants⟩
  rw [← grants.reaches, Partition.Reaches, ← handlersOf_finish _ progress.registry.dependencyOrder,
    ← arises.modules]
  simp only [mem_partOf, Build.Reaches, Build.module?, arises.registry]
  constructor
  · intro holds
    rcases holds with ⟨module, held, handler, member, reaches⟩
    exact ⟨handler, ⟨module, held, member⟩, reaches⟩
  · intro holds
    rcases holds with ⟨handler, ⟨module, held, member⟩, reaches⟩
    exact ⟨module, held, handler, member, reaches⟩

/-- The modules hold the types that the registry says they own. -/
theorem mem_types_iff {name : String} {id : TypeId} :
    (∃ module, result.module? name = some module ∧ id ∈ module.types) ↔
      result.registry.moduleOf? id = some name := by
  have types : partOf Module.types result.modules name = _ := arises.typesOf_eq name
  rw [Build.module?, ← mem_partOf, types, List.mem_filter, decide_eq_true_eq,
    arises.mem_order_iff]
  exact ⟨fun both => both.2, fun owned => ⟨Registry.lt_size_of_moduleOf? owned, owned⟩⟩

theorem not_reaches {name : String} (foreign : ∀ entry ∈ document.operations,
    entry.moduleName config.fallbackModule ≠ name) (id : TypeId) : ¬result.Reaches name id := by
  rw [arises.reaches]
  intro holds
  rcases holds with ⟨handler, member, _⟩
  rcases mem_partOf.mp member with ⟨module, held, _⟩
  have present : (grouped.value? name).isSome := Option.isSome_iff_exists.mpr ⟨module, held⟩
  rcases (arises.converted.value?_isSome name).mp present with ⟨entry, declared, same⟩
  exact foreign entry declared same

theorem owner_cases {id : TypeId} {node : TypeNode} (found : result.registry.node? id = some node) :
    (∃ key module, config.Assigns result.registry key module id ∧
        (∀ other owner, config.Assigns result.registry other owner id → key ≤ other) ∧
        node.module = some module) ∨
      (¬∃ key module, config.Assigns result.registry key module id) ∧
        ((∃ name, result.Reaches name id ∧ (∀ other, result.Reaches other id → name ≤ other) ∧
            node.module = some name) ∨
          (¬∃ name, result.Reaches name id) ∧ node.module = none) := by
  have registered := Registry.lt_size_of_node? found
  rw [arises.size] at registered
  have unowned : (partitionStart progress grouped).registry.moduleOf? id = none :=
    arises.converted.unowned id
  have owner := Registry.moduleOf?_eq found
  rw [arises.registry] at owner
  simp only [Config.Assigns, arises.lookup?, arises.reaches]
  rw [← owner]
  exact assigned_cases config registered unowned

end Build.Arises

/-- Every type of a build belongs to the module of the least key that the configuration has for it,
or else to the least module with a handler that reaches it, or else to no module. A module that no
operation belongs to owns nothing but what the configuration gives to it. -/
theorem build_ownership {document : Document} {config : Config} {result : Build}
    (built : build document config = .ok result) :
    (∀ id node, result.registry.node? id = some node →
      ((∃ key module, config.Assigns result.registry key module id) →
        ∃ key module, config.Assigns result.registry key module id ∧
          (∀ other owner, config.Assigns result.registry other owner id → key ≤ other) ∧
          node.module = some module) ∧
      ((¬∃ key module, config.Assigns result.registry key module id) →
        (∃ name, result.Reaches name id) →
          ∃ name, result.Reaches name id ∧ (∀ other, result.Reaches other id → name ≤ other) ∧
            node.module = some name) ∧
      ((¬∃ key module, config.Assigns result.registry key module id) →
        (¬∃ name, result.Reaches name id) → node.module = none)) ∧
    ∀ name, (∀ entry ∈ document.operations, entry.moduleName config.fallbackModule ≠ name) →
      ∀ id, (∃ module, result.module? name = some module ∧ id ∈ module.types) ∨
          result.registry.moduleOf? id = some name →
        ∃ key, config.Assigns result.registry key name id := by
  rcases exists_arises built with ⟨progress, grouped, arises⟩
  refine ⟨?_, ?_⟩
  · intro id node found
    rcases arises.owner_cases found with
      ⟨key, module, assigns, least, owner⟩ |
        ⟨unassigned, ⟨name, reaches, least, owner⟩ | ⟨unreached, free⟩⟩
    · have assigned : ∃ key module, config.Assigns result.registry key module id :=
        ⟨key, module, assigns⟩
      refine ⟨?_, ?_, ?_⟩
      · intro _
        exact ⟨key, module, assigns, least, owner⟩
      · intro unassigned
        exact absurd assigned unassigned
      · intro unassigned
        exact absurd assigned unassigned
    · refine ⟨?_, ?_, ?_⟩
      · intro assigned
        exact absurd assigned unassigned
      · intro _ _
        exact ⟨name, reaches, least, owner⟩
      · intro _ unreached
        exact absurd ⟨name, reaches⟩ unreached
    · refine ⟨?_, ?_, ?_⟩
      · intro assigned
        exact absurd assigned unassigned
      · intro _ reached
        exact absurd reached unreached
      · intro _ _
        exact free
  · intro name foreign id owned
    rw [arises.mem_types_iff, or_self] at owned
    cases found : result.registry.node? id with
    | none => simp [Registry.moduleOf?, found] at owned
    | some node =>
        rw [Registry.moduleOf?_eq found] at owned
        rcases arises.owner_cases found with
          ⟨key, module, assigns, _, owner⟩ | ⟨_, ⟨other, reaches, _, owner⟩ | ⟨_, free⟩⟩
        · rw [owned] at owner
          cases owner
          exact ⟨key, assigns⟩
        · rw [owned] at owner
          cases owner
          exact absurd reaches (arises.not_reaches foreign id)
        · rw [owned] at free
          cases free

/-- The pet shop with an operation that leads to all of its types. -/
def Document.openPetShop : Document :=
  { petShop with paths := [("/pets", {
      operation? := fun method =>
        if method = .get then some {
          tags := ["pets"]
          responses := [("200", .inline {
            content := [("application/json", some (.reference "#/components/schemas/Keeper"))] })] }
        else none })] }

def Config.petShop : Config where
  typeModules := .ofEntries [("Keeper", "people"), ("Owner", "staff")]

theorem openPetShop_builds : ∃ result, build .openPetShop .petShop = .ok result :=
  exists_build (by cbv)

/-- A shop with a type that the configuration and the operation both speak for, under two names, one
that only the operation leads to and one that nothing leads to. -/
def Document.atticShop : Document where
  components := { schemas := [
    ("Pet", .inline { properties := [("keeper", .reference "#/components/schemas/Keeper")] }),
    ("Keeper", .reference "#/components/schemas/Owner"),
    ("Owner", .inline {
      additionalProperties := some (.schema (.reference "#/components/schemas/Pet")) }),
    ("Attic", .inline {})] }
  paths := [("/pets", {
    operation? := fun method =>
      if method = .get then some {
        tags := ["pets"]
        parameters := [
          .inline {
            name := "page"
            location := .query
            schema := some (.inline { type := some (.single .integer) }) },
          .inline { name := "token", location := .header }]
        responses := [("200", .inline {
          content := [("application/json", some (.inline {
            items := some (.reference "#/components/schemas/Keeper") }))] })] }
      else none })]

/-- The types of the shop, numbered as they are declared. None belongs to a module yet. -/
def Registry.atticShop : Registry where
  nodes := [
    { name := "Pet", shape := .object [{ name := "keeper", type := .named 1 }] },
    { name := "Owner", shape := .map (.named 0) },
    { name := "Attic" }]
  bindings := [("Pet", 0), ("Owner", 1), ("Keeper", 1), ("Attic", 2)]

/-- The pet and the owner refer to each other and to nothing else. -/
theorem TypeGraph.refers_atticShop (source target : TypeId) :
    (ofRegistry .atticShop).Refers source target ↔
      source = 0 ∧ target = 1 ∨ source = 1 ∧ target = 0 := by
  rw [refers_ofRegistry, mem_dependencies, Registry.atticShop]
  rcases source with _ | _ | _ | source <;>
    simp [Registry.node?, Shape.targets, TypeRef.targets, fieldTargets, Shape.unknown]

theorem TypeGraph.reaches_atticShop (id : TypeId) :
    (ofRegistry .atticShop).Reaches 1 id ↔ id < 2 := by
  constructor
  · intro path
    induction path with
    | refl => decide
    | tail _ step _ =>
        rcases (refers_atticShop _ _).mp step with ⟨_, same⟩ | ⟨_, same⟩ <;> simp [same]
  · intro below
    interval_cases id
    · exact .single ((refers_atticShop 1 0).mpr (.inr ⟨rfl, rfl⟩))
    · exact .refl

/-- What the shop is converted to, and what its operation refers to itself. -/
theorem exists_arises_atticShop :
    ∃ result progress grouped module handler,
      build .atticShop .petShop = .ok result ∧
        result.Arises .atticShop .petShop progress grouped ∧ progress.registry = .atticShop ∧
        grouped.entries = [("pets", module)] ∧ module.handlers = [handler] ∧
        handler.roots = [1] := by
  have success : ((convertDocument .atticShop Config.petShop.fallbackModule).run {}).1.map
      (fun grouped => grouped.entries.map fun entry =>
        (entry.1, entry.2.handlers.map Handler.roots)) = .ok [("pets", [[1]])] := by cbv
  have registry : ((convertDocument .atticShop Config.petShop.fallbackModule).run {}).2.registry =
      .atticShop := by cbv
  rcases converts : (convertDocument .atticShop Config.petShop.fallbackModule).run {} with
    ⟨outcome, progress⟩
  rw [converts] at success registry
  cases outcome with
  | error error => cases success
  | ok grouped =>
      rcases arises_of_converts converts with ⟨result, built, arises⟩
      rcases List.map_eq_singleton_iff.mp (Except.ok.inj success) with
        ⟨⟨name, module⟩, entries, same⟩
      cases (Prod.mk.inj same).1
      rcases List.map_eq_singleton_iff.mp (Prod.mk.inj same).2 with ⟨handler, handlers, roots⟩
      exact ⟨result, progress, grouped, module, handler, built, arises, registry, entries,
        handlers, roots⟩

/-- The configuration speaks for the owner, and the operation leads to the owner and from there to
the pet. -/
theorem exists_atticShop :
    ∃ result, build .atticShop .petShop = .ok result ∧
      result.registry.nodes.map TypeNode.name = ["Pet", "Owner", "Attic"] ∧
      result.registry.bindings = [("Pet", 0), ("Owner", 1), ("Keeper", 1), ("Attic", 2)] ∧
      (∀ key module id, Config.petShop.Assigns result.registry key module id ↔
        (key = "Keeper" ∧ module = "people" ∨ key = "Owner" ∧ module = "staff") ∧ id = 1) ∧
      ∀ name id, result.Reaches name id ↔ name = "pets" ∧ id < 2 := by
  rcases exists_arises_atticShop with
    ⟨result, progress, grouped, module, handler, built, arises, registry, entries, handlers, roots⟩
  have types := arises.types.trans registry
  have bindings := congrArg Registry.bindings types
  have names := congrArg (fun registry : Registry => registry.nodes.map TypeNode.name) types
  refine ⟨result, built, ?_, bindings, ?_, ?_⟩
  · simpa [Registry.withoutModules, Function.comp_def, Registry.atticShop] using names
  · intro key module id
    have configured : Config.petShop.typeModules.entries =
        [("Keeper", "people"), ("Owner", "staff")] := by cbv
    rw [Config.Assigns, configured, arises.lookup?, registry, Registry.atticShop]
    simp only [Registry.lookup?, Entries.value?, List.mem_cons, Prod.mk.injEq, List.not_mem_nil]
    grind
  · intro name id
    have held : handlersOf grouped name = if name = "pets" then [handler] else [] := by
      rw [handlersOf, partOf, NameMap.value?, entries]
      by_cases same : name = "pets"
      · simp [Entries.value?, same, handlers]
      · simp [Entries.value?, same, Ne.symm same]
    rw [arises.reaches, Partition.Reaches]
    simp only [partitionStart, held, registry, Handler.reaches_iff]
    split
    next same => simp [same, roots, TypeGraph.reaches_atticShop]
    next different => simp [different]

/-- The owner goes to the module that is given under the alias, since that is the lesser key, and not
to the one whose operation reaches it. The pet goes there, and the attic nowhere. No operation is in
the module of the people, so only the configuration fills it. -/
theorem build_ownership_atticShop :
    ∃ result, build .atticShop .petShop = .ok result ∧
      (∃ node, result.registry.node? 1 = some node ∧ node.name = "Owner" ∧
        Config.petShop.Assigns result.registry "Keeper" "people" 1 ∧
        Config.petShop.Assigns result.registry "Owner" "staff" 1 ∧
        result.Reaches "pets" 1 ∧ node.module = some "people") ∧
      (∃ node, result.registry.node? 0 = some node ∧ node.name = "Pet" ∧
        (¬∃ key module, Config.petShop.Assigns result.registry key module 0) ∧
        result.Reaches "pets" 0 ∧ node.module = some "pets") ∧
      (∃ node, result.registry.node? 2 = some node ∧ node.name = "Attic" ∧
        (¬∃ key module, Config.petShop.Assigns result.registry key module 2) ∧
        (¬∃ name, result.Reaches name 2) ∧ node.module = none) ∧
      (∀ entry ∈ Document.atticShop.operations,
        entry.moduleName Config.petShop.fallbackModule ≠ "people") ∧
      ∀ id, result.registry.moduleOf? id = some "people" →
        Config.petShop.Assigns result.registry "Keeper" "people" id := by
  rcases exists_atticShop with ⟨result, built, names, _, assigns, reaches⟩
  have node (id : TypeId) (name : String) (place : ["Pet", "Owner", "Attic"][id]? = some name) :
      ∃ node, result.registry.node? id = some node ∧ node.name = name := by
    rwa [← names, List.getElem?_map, Option.map_eq_some_iff] at place
  have keeper : Config.petShop.Assigns result.registry "Keeper" "people" 1 :=
    (assigns _ _ _).mpr ⟨.inl ⟨rfl, rfl⟩, rfl⟩
  have owner : Config.petShop.Assigns result.registry "Owner" "staff" 1 :=
    (assigns _ _ _).mpr ⟨.inr ⟨rfl, rfl⟩, rfl⟩
  rcases build_ownership built with ⟨owners, filled⟩
  have unassigned (id : TypeId) (other : id ≠ 1) :
      ¬∃ key module, Config.petShop.Assigns result.registry key module id := by
    rintro ⟨key, module, holds⟩
    exact other ((assigns key module id).mp holds).2
  have foreign : ∀ entry ∈ Document.atticShop.operations,
      entry.moduleName Config.petShop.fallbackModule ≠ "people" := by
    intro entry member
    rw [List.mem_singleton.mp member]
    decide
  refine ⟨result, built, ?_, ?_, ?_, foreign, ?_⟩
  · rcases node 1 "Owner" rfl with ⟨node, found, named⟩
    rcases (owners 1 node found).1 ⟨_, _, keeper⟩ with ⟨key, module, given, least, owned⟩
    have before := least _ _ keeper
    rcases ((assigns key module 1).mp given).1 with ⟨rfl, rfl⟩ | ⟨rfl, rfl⟩
    · have reached : result.Reaches "pets" 1 := (reaches _ _).mpr ⟨rfl, by decide⟩
      exact ⟨node, found, named, keeper, owner, reached, owned⟩
    · exact absurd before (by decide)
  · rcases node 0 "Pet" rfl with ⟨node, found, named⟩
    have reached : result.Reaches "pets" 0 := (reaches _ _).mpr ⟨rfl, by decide⟩
    rcases (owners 0 node found).2.1 (unassigned 0 (by decide)) ⟨_, reached⟩ with
      ⟨name, also, _, owned⟩
    rw [((reaches name 0).mp also).1] at owned
    exact ⟨node, found, named, unassigned 0 (by decide), reached, owned⟩
  · rcases node 2 "Attic" rfl with ⟨node, found, named⟩
    have unreached : ¬∃ name, result.Reaches name 2 := by
      rintro ⟨name, holds⟩
      exact absurd ((reaches name 2).mp holds).2 (by decide)
    have free := (owners 2 node found).2.2 (unassigned 2 (by decide)) unreached
    exact ⟨node, found, named, unassigned 2 (by decide), unreached, free⟩
  · intro id owned
    rcases filled "people" foreign id (.inr owned) with ⟨key, given⟩
    rcases ((assigns key "people" id).mp given).1 with ⟨rfl, _⟩ | ⟨_, other⟩
    · exact given
    · exact absurd other (by decide)

end ApiGraph
