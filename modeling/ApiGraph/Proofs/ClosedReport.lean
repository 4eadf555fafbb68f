import ApiGraph.Proofs.Modules
import ApiGraph.Proofs.Renumbering.Report
import ApiGraph.Proofs.Statistics

namespace ApiGraph

/-! # Reports are closed

A generator that reads a report looks up by name what is referred to. Whatever a report refers to, at
any depth, is among its types, and so is every name in one of its lists. References never stop at
another name for a type. -/

open Registry

/-! ## What is inside a registered type -/

section Shapes

variable {ρ : Type} {shape : Shape ρ} {target : ρ}

theorem Shape.mem_targets_of_mem_fields {field : TypeField ρ} (inside : field ∈ shape.fields)
    (member : target ∈ field.type.targets) : target ∈ shape.targets := by
  cases shape with
  | object fields =>
      rw [Shape.targets]
      exact mem_fieldTargets.mpr ⟨field, inside, member⟩
  | _ => cases inside

theorem Shape.mem_targets_of_element? {element : TypeRef ρ} (found : shape.element? = some element)
    (member : target ∈ element.targets) : target ∈ shape.targets := by
  cases shape with
  | array other =>
      cases found
      rwa [Shape.targets]
  | _ => cases found

end Shapes

section Registered

variable {registry : Registry} (closed : registry.IsClosed)

include closed

theorem Registry.IsClosed.registers_shape {id : TypeId} {node : TypeNode}
    (found : registry.node? id = some node) : registry.Registers node.shape.targets :=
  closed node (List.mem_of_getElem? found)

theorem Registry.IsClosed.registers_shapeOf {type : TypeRef TypeId}
    (registers : registry.Registers type.targets) :
    registry.Registers (registry.shapeOf type).targets := by
  cases type with
  | inline shape =>
      rw [TypeRef.targets] at registers
      exact registers
  | named id =>
      rw [shapeOf]
      cases found : registry.node? id with
      | none =>
          intro target member
          cases member
      | some node => exact closed.registers_shape found

theorem Registry.IsClosed.registers_cycle {cycle : List TypeId}
    (reported : cycle ∈ registry.dependencyOrder.cycles) : registry.Registers cycle := by
  rcases TypeGraph.exists_emission (TypeGraph.closed_ofRegistry closed)
    (TypeGraph.nodup_vertices_ofRegistry registry) with ⟨groups, _, order, cycles, perm⟩
  intro id inside
  rw [dependencyOrder, cycles] at reported
  rw [← TypeGraph.mem_vertices_ofRegistry, ← perm.mem_iff, order]
  exact (TypeGraph.Emission.cycles_sublist groups).subset
    (List.mem_flatten.mpr ⟨cycle, reported, inside⟩)

theorem Handler.registers_payload {handler : Handler} {payload : TypeRef TypeId}
    (registers : ∀ type ∈ handler.typeRefs, registry.Registers type.targets)
    (paid : handler.payload? registry = some payload) : registry.Registers payload.targets := by
  rcases Option.bind_eq_some_iff.mp paid with ⟨body, answered, paid⟩
  rcases Option.bind_eq_some_iff.mp paid with ⟨field, named, made⟩
  cases made
  have inBody : body ∈ handler.typeRefs := by simp [typeRefs, answered]
  intro target member
  exact closed.registers_shapeOf (registers body inBody) target
    (Shape.mem_targets_of_mem_fields (List.mem_of_find?_eq_some named) member)

/-- The items of a page are found inside the response. -/
theorem Handler.registers_item {handler : Handler} {page : Handler.PageInfo}
    {indexCandidates sizeCandidates : List String}
    (registers : ∀ type ∈ handler.typeRefs, registry.Registers type.targets)
    (found : handler.pageInfo? registry indexCandidates sizeCandidates = some page) :
    registry.Registers page.item.targets := by
  unfold pageInfo? at found
  split at found
  · cases found
  · rcases Option.bind_eq_some_iff.mp found with ⟨indexName, _, found⟩
    rcases Option.bind_eq_some_iff.mp found with ⟨sizeName, _, found⟩
    rcases Option.bind_eq_some_iff.mp found with ⟨payload, paid, found⟩
    rcases Option.bind_eq_some_iff.mp found with ⟨item, listed, made⟩
    cases made
    rcases List.exists_of_findSome?_eq_some listed with ⟨list, inside, element⟩
    have payloads := registers_payload closed registers paid
    have lists : registry.Registers list.type.targets := fun target member =>
      closed.registers_shapeOf payloads target (Shape.mem_targets_of_mem_fields inside member)
    intro target member
    exact closed.registers_shapeOf lists target (Shape.mem_targets_of_element? element member)

end Registered

/-! ## References -/

/-- The types in a handler and in the items of its pages. -/
def HandlerReport.types (handler : HandlerReport) : List (TypeRef String) :=
  handler.requestBody.toList ++ handler.responseBody.toList ++
    (handler.headerParams ++ handler.pathParams ++ handler.queryParams).map Field.type ++
    handler.page.toList.map PageReport.item

namespace Report

variable (report : Report)

def typeNames : List String := report.types.map TypeReport.name

/-- All references, at any depth: inside the types and inside the handlers of the modules. -/
def references : List String :=
  report.types.flatMap (fun type => type.shape.targets) ++
    report.modules.flatMap fun module => module.handlers.flatMap fun handler =>
      handler.types.flatMap TypeRef.targets

end Report

theorem Build.types_reportHandler (result : Build) (handler : Handler) :
    (result.reportHandler handler).types =
      (handler.typeRefs ++ (result.pageInfo? handler).toList.map Handler.PageInfo.item).map
        (·.rename result.registry.nameOf) := by
  have body (body? : Option (TypeRef TypeId)) :
      (body?.map (·.rename result.registry.nameOf)).toList =
        body?.toList.map (·.rename result.registry.nameOf) := by
    cases body? <;> rfl
  have fields (fields : List (TypeField TypeId)) :
      (renameFields result.registry.nameOf fields).map Field.type =
        (fields.map Field.type).map (·.rename result.registry.nameOf) := by
    rw [renameFields_eq_map, List.map_map, List.map_map]
    rfl
  have page : ((result.pageInfo? handler).map result.reportPage).toList.map PageReport.item =
      ((result.pageInfo? handler).toList.map Handler.PageInfo.item).map
        (·.rename result.registry.nameOf) := by
    cases result.pageInfo? handler <;> rfl
  simp only [HandlerReport.types, reportHandler, Handler.typeRefs, Handler.params, List.map_append,
    body, fields, page]

/-! ## The types of a report -/

theorem Registry.exists_node {registry : Registry} {id : TypeId} (registered : id < registry.size) :
    ∃ node, registry.node? id = some node :=
  ⟨_, List.getElem?_eq_getElem registered⟩

namespace Build.Arises

variable {document : Document} {config : Config} {progress : Progress} {grouped : ModuleMap}
  {result : Build} (arises : result.Arises document config progress grouped)

include arises

theorem typeNames_eq :
    result.report.typeNames = result.order.order.map result.registry.nameOf := by
  rw [Report.typeNames, report, List.map_filterMap, ← List.filterMap_eq_map]
  apply List.filterMap_congr
  intro id listed
  rcases exists_node ((arises.mem_order_iff id).mp listed) with ⟨node, found⟩
  simp only [found, Function.comp, Option.map_some, nameOf_eq found]
  rfl

/-- The types are reported in another order and under the names that they were registered under. -/
theorem typeNames_perm : result.report.typeNames.Perm progress.registry.names := by
  have order : result.order.order.Perm progress.registry.ids := by
    refine (List.perm_ext_iff_of_nodup arises.nodup_order List.nodup_range).mpr fun id => ?_
    rw [arises.mem_order_iff, arises.size]
    exact List.mem_range.symm
  have names : result.registry.nameOf = progress.registry.nameOf := funext arises.nameOf
  rw [arises.typeNames_eq, names, ← progress.registry.map_nameOf_ids]
  exact order.map _

theorem nodup_typeNames : result.report.typeNames.Nodup :=
  arises.typeNames_perm.nodup_iff.mpr arises.converted.complete.faithful.indexed.nodup_names

theorem mem_typeNames_iff {name : String} :
    name ∈ result.report.typeNames ↔ ∃ schema, document.schema? name = some (.inline schema) := by
  rw [arises.typeNames_perm.mem_iff, arises.converted.complete.mem_names_iff]

theorem nameOf_mem_typeNames {id : TypeId} (registered : id < result.registry.size) :
    result.registry.nameOf id ∈ result.report.typeNames := by
  rw [arises.typeNames_eq]
  exact List.mem_map_of_mem ((arises.mem_order_iff id).mpr registered)

theorem mem_typeNames_of_mem_map {ids : List TypeId} (registers : result.registry.Registers ids)
    {name : String} (member : name ∈ ids.map result.registry.nameOf) :
    name ∈ result.report.typeNames := by
  rcases List.mem_map.mp member with ⟨id, inside, rfl⟩
  exact arises.nameOf_mem_typeNames (registers id inside)

/-! ## Aliases -/

theorem mem_aliases_iff {name : String} :
    name ∈ result.report.aliases.names ↔
      ∃ path, document.schema? name = some (.reference path) := by
  have distinct := arises.converted.complete.faithful.distinct
  rw [← arises.converted.complete.mem_aliases_iff, mem_names_aliases distinct, NameMap.names,
    ← Entries.value?_isSome_iff, Option.isSome_iff_exists]
  have found (type : String) : Entries.value? result.report.aliases.entries name = some type ↔
      ∃ id, result.registry.lookup? name = some id ∧ result.registry.nameOf id = type ∧
        type ≠ name := value?_aliases arises.distinct name type
  simp only [found, arises.lookup?, arises.nameOf]
  constructor
  · intro holds
    rcases holds with ⟨_, id, bound, rfl, different⟩
    exact ⟨id, bound, different⟩
  · intro holds
    rcases holds with ⟨id, bound, different⟩
    exact ⟨_, id, bound, rfl, different⟩

theorem alias_mem_typeNames {entry : String × String}
    (member : entry ∈ result.report.aliases.entries) : entry.2 ∈ result.report.typeNames := by
  have found : result.report.aliases.value? entry.1 = some entry.2 :=
    (NameMap.mem_entries_iff _).mp member
  rcases (value?_aliases arises.distinct entry.1 entry.2).mp found with ⟨id, bound, name, _⟩
  rw [arises.lookup?] at bound
  rcases arises.converted.complete.faithful.leads bound with ⟨node, _, held, _⟩
  rw [← name]
  apply arises.nameOf_mem_typeNames
  rw [arises.size]
  exact lt_size_of_node? held

/-! ## References -/

theorem registers_handler {name : String} {module : Module} {handler : Handler}
    (found : (name, module) ∈ result.modules.entries) (member : handler ∈ module.handlers) :
    ∀ type ∈ handler.typeRefs, result.registry.Registers type.targets := by
  rcases arises.exists_handlers with ⟨handled, handles, perm⟩
  have listed : handler ∈ result.handlers := List.mem_flatMap.mpr ⟨_, found, member⟩
  rcases List.mem_map.mp (perm.mem_iff.mp listed) with ⟨pair, inside, rfl⟩
  intro type held target mentioned
  rw [arises.size]
  exact (handles.translates pair inside).registered type held target mentioned

theorem mem_typeNames_of_mem_types {type : TypeReport} (member : type ∈ result.report.types)
    {name : String} (mentioned : name ∈ type.shape.targets) : name ∈ result.report.typeNames := by
  rcases List.mem_filterMap.mp member with ⟨id, _, reported⟩
  rcases Option.map_eq_some_iff.mp reported with ⟨node, found, rfl⟩
  rw [reportType, Shape.targets_rename] at mentioned
  exact arises.mem_typeNames_of_mem_map (arises.closed.registers_shape found) mentioned

theorem mem_typeNames_of_mem_handlers {module : ModuleReport} {handler : HandlerReport}
    {type : TypeRef String} (found : module ∈ result.report.modules)
    (member : handler ∈ module.handlers) (inside : type ∈ handler.types) {name : String}
    (mentioned : name ∈ type.targets) : name ∈ result.report.typeNames := by
  rcases List.mem_map.mp found with ⟨⟨key, source⟩, held, rfl⟩
  rcases List.mem_map.mp member with ⟨handler, listed, rfl⟩
  rw [types_reportHandler] at inside
  rcases List.mem_map.mp inside with ⟨source, given, rfl⟩
  rw [TypeRef.targets_rename] at mentioned
  have registers := arises.registers_handler held listed
  refine arises.mem_typeNames_of_mem_map ?_ mentioned
  rcases List.mem_append.mp given with given | given
  · exact registers source given
  · rcases List.mem_map.mp given with ⟨page, paged, rfl⟩
    exact Handler.registers_item arises.closed registers (Option.mem_toList.mp paged)

theorem mem_typeNames_of_mem_references {name : String}
    (member : name ∈ result.report.references) : name ∈ result.report.typeNames := by
  rcases List.mem_append.mp member with member | member
  · rcases List.mem_flatMap.mp member with ⟨type, listed, mentioned⟩
    exact arises.mem_typeNames_of_mem_types listed mentioned
  · rcases List.mem_flatMap.mp member with ⟨module, found, member⟩
    rcases List.mem_flatMap.mp member with ⟨handler, listed, member⟩
    rcases List.mem_flatMap.mp member with ⟨type, inside, mentioned⟩
    exact arises.mem_typeNames_of_mem_handlers found listed inside mentioned

theorem mem_typeNames_of_mem_cycles {cycle : List String}
    (found : cycle ∈ result.report.statistics.cycles) {name : String} (member : name ∈ cycle) :
    name ∈ result.report.typeNames := by
  rcases arises.exists_statistics with ⟨_, _, _, _, _, _, _, _, statistics⟩
  have cycles : result.report.statistics.cycles =
      progress.registry.cycleNames progress.registry.dependencyOrder :=
    congrArg Statistics.cycles statistics
  rw [cycles, ← arises.order] at found
  rcases List.mem_map.mp found with ⟨ids, reported, rfl⟩
  rcases List.mem_map.mp member with ⟨id, inside, rfl⟩
  rw [← arises.nameOf]
  apply arises.nameOf_mem_typeNames
  rw [arises.order_eq] at reported
  exact arises.closed.registers_cycle reported id inside

/-! ## Lists of names -/

theorem mem_typeNames_of_mem_module {module : ModuleReport}
    (found : module ∈ result.report.modules) {name : String} (member : name ∈ module.types) :
    name ∈ result.report.typeNames := by
  rcases List.mem_map.mp found with ⟨⟨key, source⟩, held, rfl⟩
  refine arises.mem_typeNames_of_mem_map ?_ member
  intro id inside
  rw [arises.types_eq ((NameMap.mem_entries_iff _).mp held)] at inside
  exact (arises.mem_order_iff id).mp (List.mem_filter.mp inside).1

/-- A module lists the types that say that they are its own. -/
theorem mem_module_iff {id : TypeId} {node : TypeNode} {module : ModuleReport}
    (found : result.registry.node? id = some node) (listed : module ∈ result.report.modules) :
    node.name ∈ module.types ↔ node.module = some module.name := by
  rcases List.mem_map.mp listed with ⟨⟨key, source⟩, held, rfl⟩
  have kept : result.module? key = some source := (NameMap.mem_entries_iff _).mp held
  have named : source.name = key := arises.named key source kept
  have owner : id ∈ source.types ↔ node.module = some source.name := by
    rw [arises.types_eq kept, List.mem_filter, decide_eq_true_eq, moduleOf?_eq found, named,
      arises.mem_order_iff]
    exact and_iff_right (lt_size_of_node? found)
  rw [← nameOf_eq found]
  refine Iff.trans ?_ owner
  constructor
  · intro member
    rcases List.mem_map.mp member with ⟨other, inside, same⟩
    have registered : other < result.registry.size := by
      rw [arises.types_eq kept] at inside
      exact (arises.mem_order_iff other).mp (List.mem_filter.mp inside).1
    rwa [← arises.isNamed.nameOf_injective registered (lt_size_of_node? found) same]
  · intro inside
    exact List.mem_map_of_mem inside

theorem exists_module {id : TypeId} {node : TypeNode} {owner : String}
    (found : result.registry.node? id = some node) (owned : node.module = some owner) :
    ∃ module ∈ result.report.modules, module.name = owner := by
  rw [← moduleOf?_eq found] at owned
  rcases arises.mem_types_iff.mpr owned with ⟨module, kept, _⟩
  refine ⟨result.reportModule module.name module, ?_, arises.named owner module kept⟩
  exact List.mem_map_of_mem ((NameMap.mem_entries_iff _).mpr kept)

/-- The module of a name is the one that lists the type that the name stands for. -/
theorem moduleOf?_eq_some_iff {name owner : String} :
    result.moduleOf? name = some owner ↔ ∃ node, result.type? name = some node ∧
      ∃ module ∈ result.report.modules, module.name = owner ∧ node.name ∈ module.types := by
  rw [moduleOf?, Option.bind_eq_some_iff]
  refine exists_congr fun node => and_congr_right fun standing => ?_
  rcases Option.bind_eq_some_iff.mp standing with ⟨id, _, found⟩
  constructor
  · intro owned
    rcases arises.exists_module found owned with ⟨module, listed, rfl⟩
    exact ⟨module, listed, rfl, (arises.mem_module_iff found listed).mpr owned⟩
  · intro holds
    rcases holds with ⟨module, listed, rfl, member⟩
    exact (arises.mem_module_iff found listed).mp member

omit arises in
theorem mem_unassigned_iff {name : String} :
    name ∈ result.unassigned ↔
      ∃ node ∈ result.registry.nodes, node.name = name ∧ node.module = none := by
  rw [unassigned, (List.mergeSort_perm _ _).mem_iff, List.mem_map]
  simp only [List.mem_filter, Option.isNone_iff_eq_none]
  constructor
  · intro holds
    rcases holds with ⟨node, ⟨member, free⟩, named⟩
    exact ⟨node, member, named, free⟩
  · intro holds
    rcases holds with ⟨node, member, named, free⟩
    exact ⟨node, ⟨member, free⟩, named⟩

theorem mem_unassigned_iff_of_node? {id : TypeId} {node : TypeNode}
    (found : result.registry.node? id = some node) :
    node.name ∈ result.unassigned ↔ node.module = none := by
  rw [mem_unassigned_iff]
  constructor
  · intro holds
    rcases holds with ⟨other, member, same, free⟩
    rcases List.mem_iff_getElem?.mp member with ⟨place, held⟩
    have names : result.registry.nameOf place = result.registry.nameOf id := by
      rw [nameOf_eq held, nameOf_eq found, same]
    have equal := arises.isNamed.nameOf_injective (lt_size_of_node? held) (lt_size_of_node? found)
      names
    rw [equal] at held
    rw [← Option.some.inj (held.symm.trans found)]
    exact free
  · intro free
    exact ⟨node, List.mem_of_getElem? found, rfl, free⟩

theorem unassigned_increasing : result.unassigned.Pairwise (· < ·) := by
  have distinct : result.unassigned.Nodup := by
    have names : result.registry.names.Nodup := by
      rw [← result.registry.map_nameOf_ids, ids, arises.size, funext arises.nameOf]
      exact progress.registry.map_nameOf_ids ▸ arises.converted.complete.faithful.indexed.nodup_names
    exact (List.mergeSort_perm _ _).nodup_iff.mpr (names.sublist (List.filter_sublist.map _))
  refine ((pairwise_mergeSort _).and distinct).imp ?_
  intro left right ordered
  exact Std.lt_of_le_of_ne ordered.1 ordered.2

theorem mem_typeNames_of_mem_unassigned {name : String} (member : name ∈ result.unassigned) :
    name ∈ result.report.typeNames := by
  rcases mem_unassigned_iff.mp member with ⟨node, inside, rfl, _⟩
  rcases List.mem_iff_getElem?.mp inside with ⟨id, found⟩
  rw [← nameOf_eq found]
  exact arises.nameOf_mem_typeNames (lt_size_of_node? found)

end Build.Arises

/-- What a report names is there. Its types are the components that are definitions, each once, and
its aliases are those that are references; an alias stands for a type. A reference at any depth of a
type, of a handler or of the items of a page is the name of a type and never an alias, and so is every
name in the list of a module, of the types without a module and of a cycle. A type stands in the list
of the module that it says it belongs to and in no other; where it has none it stands in the list of
these, which increases. -/
theorem report_closed {document : Document} {config : Config} {result : Build}
    (built : build document config = .ok result) :
    let report := result.report
    (report.typeNames.Nodup ∧ ∀ name, name ∈ report.typeNames ↔
        ∃ schema, document.schema? name = some (.inline schema)) ∧
      ((∀ name, name ∈ report.aliases.names ↔
          ∃ path, document.schema? name = some (.reference path)) ∧
        (∀ name ∈ report.aliases.names, name ∉ report.typeNames) ∧
        ∀ entry ∈ report.aliases.entries, entry.2 ∈ report.typeNames) ∧
      (∀ name ∈ report.references, name ∈ report.typeNames ∧ name ∉ report.aliases.names) ∧
      (∀ module ∈ report.modules, ∀ name ∈ module.types, name ∈ report.typeNames) ∧
      (∀ name ∈ report.unassigned, name ∈ report.typeNames) ∧
      (∀ cycle ∈ report.statistics.cycles, ∀ name ∈ cycle, name ∈ report.typeNames) ∧
      (∀ type ∈ report.types,
        (∀ module ∈ report.modules, type.name ∈ module.types ↔ type.module = some module.name) ∧
        (∀ owner, type.module = some owner → ∃ module ∈ report.modules, module.name = owner) ∧
        (type.name ∈ report.unassigned ↔ type.module = none)) ∧
      report.unassigned.Pairwise (· < ·) := by
  intro report
  rcases exists_arises built with ⟨progress, grouped, arises⟩
  have apart : ∀ name ∈ report.aliases.names, name ∉ report.typeNames := by
    intro name further listed
    rcases arises.mem_aliases_iff.mp further with ⟨path, reference⟩
    rcases arises.mem_typeNames_iff.mp listed with ⟨schema, inline⟩
    rw [reference] at inline
    cases inline
  refine ⟨⟨arises.nodup_typeNames, ?_⟩, ⟨?_, apart, ?_⟩, ?_, ?_, ?_, ?_, ?_, ?_⟩
  · intro name
    exact arises.mem_typeNames_iff
  · intro name
    exact arises.mem_aliases_iff
  · intro entry member
    exact arises.alias_mem_typeNames member
  · intro name member
    have listed := arises.mem_typeNames_of_mem_references member
    exact ⟨listed, fun further => apart name further listed⟩
  · intro module found name member
    exact arises.mem_typeNames_of_mem_module found member
  · intro name member
    exact arises.mem_typeNames_of_mem_unassigned member
  · intro cycle found name member
    exact arises.mem_typeNames_of_mem_cycles found member
  · intro type member
    rcases List.mem_filterMap.mp member with ⟨id, _, reported⟩
    rcases Option.map_eq_some_iff.mp reported with ⟨node, found, rfl⟩
    refine ⟨?_, ?_, arises.mem_unassigned_iff_of_node? found⟩
    · intro module listed
      exact arises.mem_module_iff found listed
    · intro owner owned
      exact arises.exists_module found owned
  · exact arises.unassigned_increasing

/-- The handler of the pet shop answers with keepers, who are reported as owners. -/
theorem report_closed_openPetShop :
    ∃ result, build .openPetShop .petShop = .ok result ∧ "Pet" ∈ result.report.typeNames ∧
      "Keeper" ∈ result.report.aliases.names ∧ "Keeper" ∉ result.report.references := by
  rcases openPetShop_builds with ⟨result, built⟩
  rcases report_closed built with ⟨⟨_, types⟩, ⟨aliases, _, _⟩, references, _⟩
  have keeper : "Keeper" ∈ result.report.aliases.names :=
    (aliases "Keeper").mpr ⟨"#/components/schemas/Owner", rfl⟩
  refine ⟨result, built, (types "Pet").mpr ⟨_, rfl⟩, keeper, ?_⟩
  intro member
  exact (references "Keeper" member).2 keeper

end ApiGraph
