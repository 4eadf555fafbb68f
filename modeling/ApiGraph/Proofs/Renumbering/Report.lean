import ApiGraph.Proofs.NameMap
import ApiGraph.Proofs.Renumbering.Build
import Mathlib

namespace ApiGraph

/-! # Reports of builds with other numbers

A report calls types by their names, so it does not show the numbers that they had. -/

open ApiGraph.Partition

/-! ## Handlers -/

section Handler

variable {before after : Registry} {renumbering : Equiv.Perm TypeId}

theorem Registry.Renumbers.shapeOf (renumbers : before.Renumbers renumbering after)
    (type : TypeRef TypeId) :
    after.shapeOf (type.rename renumbering) = (before.shapeOf type).rename renumbering := by
  cases type with
  | named id =>
      rw [TypeRef.rename, Registry.shapeOf, Registry.shapeOf, renumbers.node?]
      cases before.node? id with
      | none => rfl
      | some node => rfl
  | inline shape => rw [TypeRef.rename, Registry.shapeOf, Registry.shapeOf]

theorem Handler.payload?_renumber (renumbers : before.Renumbers renumbering after)
    (handler : Handler) :
    (handler.renumber renumbering).payload? after =
      (handler.payload? before).map (.rename renumbering) := by
  simp only [payload?, renumber]
  cases handler.responseBody with
  | none => rfl
  | some body =>
      simp only [Option.map_some, Option.bind_eq_bind, Option.bind_some, renumbers.shapeOf,
        Shape.field?_rename]
      cases (before.shapeOf body).field? payloadField <;> rfl

theorem Registry.Renumbers.item (renumbers : before.Renumbers renumbering after)
    (type : TypeRef TypeId) :
    ((after.shapeOf (type.rename renumbering)).fields.findSome? fun field =>
        (after.shapeOf field.type).element?) =
      ((before.shapeOf type).fields.findSome? fun field =>
        (before.shapeOf field.type).element?).map (.rename renumbering) := by
  rw [renumbers.shapeOf, Shape.fields_rename, List.findSome?_map, List.map_findSome?]
  congr 1
  funext field
  simp only [Function.comp, TypeField.rename, renumbers.shapeOf, Shape.element?_rename]

/-- The page of a handler is the same one, of items with other numbers. -/
theorem Handler.pageInfo?_renumber (renumbers : before.Renumbers renumbering after)
    (handler : Handler) (indexCandidates sizeCandidates : List String) :
    (handler.renumber renumbering).pageInfo? after indexCandidates sizeCandidates =
      (handler.pageInfo? before indexCandidates sizeCandidates).map fun page =>
        { page with item := page.item.rename renumbering } := by
  have names : (handler.renumber renumbering).queryParams.map Field.name =
      handler.queryParams.map Field.name := by
    have fields : (handler.renumber renumbering).queryParams =
        handler.queryParams.map (.rename renumbering) := renameFields_eq_map _ _
    rw [fields, List.map_map]
    rfl
  have method : (handler.renumber renumbering).method = handler.method := rfl
  unfold pageInfo?
  rw [names, method, handler.payload?_renumber renumbers]
  split
  · rfl
  · simp only [Option.bind_eq_bind, Option.pure_def]
    cases (orDefaults indexCandidates defaultPageIndexCandidates).find? _ with
    | none => rfl
    | some indexName =>
        simp only [Option.bind_some]
        cases (orDefaults sizeCandidates defaultPageSizeCandidates).find? _ with
        | none => rfl
        | some sizeName =>
            simp only [Option.bind_some]
            cases handler.payload? before with
            | none => rfl
            | some payload =>
                simp only [Option.map_some, Option.bind_some, renumbers.item]
                cases (before.shapeOf payload).fields.findSome? _ <;> rfl

end Handler

/-! ## Sorted names -/

theorem pairwise_mergeSort (names : List String) :
    (names.mergeSort fun left right => decide (left ≤ right)).Pairwise (· ≤ ·) :=
  pairwise_mergeSort_by String.le_trans String.le_total id names

theorem mergeSort_eq_of_perm {names others : List String} (perm : names.Perm others) :
    (names.mergeSort fun left right => decide (left ≤ right)) =
      others.mergeSort fun left right => decide (left ≤ right) := by
  refine List.Perm.eq_of_pairwise (fun _ _ _ _ => String.le_antisymm) (pairwise_mergeSort names)
    (pairwise_mergeSort others) ?_
  exact ((List.mergeSort_perm _ _).trans perm).trans (List.mergeSort_perm _ _).symm

/-- The further names of types, by the names that these were registered under. -/
theorem Registry.value?_aliases {registry : Registry}
    (distinct : (Entries.names registry.bindings).Nodup) (name type : String) :
    (NameMap.ofEntries (registry.aliases.map fun (name, id) =>
        (name, registry.nameOf id))).value? name = some type ↔
      ∃ id, registry.lookup? name = some id ∧ registry.nameOf id = type ∧ type ≠ name := by
  have names : (Entries.names (registry.aliases.map fun (name, id) =>
      (name, registry.nameOf id))).Nodup := by
    rw [Entries.names, List.map_map]
    exact distinct.sublist (List.filter_sublist.map Prod.fst)
  rw [NameMap.value?_ofEntries names]
  constructor
  · intro found
    rcases List.mem_map.mp (Entries.mem_of_value?_eq_some found) with ⟨⟨other, id⟩, member, equal⟩
    cases equal
    rcases (mem_aliases_iff distinct).mp member with ⟨bound, different⟩
    exact ⟨id, bound, rfl, different⟩
  · intro holds
    rcases holds with ⟨id, bound, rfl, different⟩
    apply Entries.value?_eq_some_of_mem names
    exact List.mem_map.mpr ⟨(name, id), (mem_aliases_iff distinct).mpr ⟨bound, different⟩, rfl⟩

section Build

variable {before after : Build} {renumbering : Equiv.Perm TypeId}

namespace Build.Renumbers

variable (renumbers : before.Renumbers renumbering after)

include renumbers

theorem reportHandler (handler : Handler) :
    after.reportHandler (handler.renumber renumbering) = before.reportHandler handler := by
  have page : (after.pageInfo? (handler.renumber renumbering)).map after.reportPage =
      (before.pageInfo? handler).map before.reportPage := by
    rw [Build.pageInfo?, Build.pageInfo?, renumbers.config,
      Handler.pageInfo?_renumber renumbers.registry, Option.map_map]
    congr 1
    funext page
    simp only [Function.comp, reportPage, renumbers.registry.rename_rename]
  simp only [Build.reportHandler, page]
  simp only [Handler.renumber, renumbers.registry.map_rename_rename,
    renumbers.registry.renameFields_renameFields]

theorem reportType (node : TypeNode) :
    after.reportType (node.renumber renumbering) = before.reportType node := by
  have shape : (node.shape.rename renumbering).rename after.registry.nameOf =
      node.shape.rename before.registry.nameOf := by
    rw [Shape.rename_rename]
    simp only [renumbers.registry.nameOf]
  simp only [Build.reportType, TypeNode.renumber, shape]

/-! ## Types -/

theorem report_types : after.report.types = before.report.types := by
  rw [report, report]
  simp only [renumbers.order, DependencyOrder.renumber, List.filterMap_map]
  congr 1
  funext id
  simp only [Function.comp, renumbers.registry.node?, Option.map_map]
  congr 1
  funext node
  exact renumbers.reportType node

theorem report_unassigned : after.report.unassigned = before.report.unassigned := by
  have perm := (renumbers.registry.nodes_perm.filter fun node => node.module.isNone).map
    TypeNode.name
  rw [List.filter_map, List.map_map] at perm
  exact (mergeSort_eq_of_perm perm).symm

theorem report_aliases : after.report.aliases = before.report.aliases := by
  apply NameMap.ext_of_value?
  intro name
  apply Option.ext
  intro type
  rw [Build.report, Build.report]
  simp only [Registry.value?_aliases renumbers.distinct.1,
    Registry.value?_aliases renumbers.distinct.2, renumbers.registry.lookup?]
  cases before.registry.lookup? name <;> simp [renumbers.registry.nameOf]

/-! ## Modules -/

theorem report_modules {Related : List HandlerReport → List HandlerReport → Prop}
    (related : ∀ name, Related ((handlersOf before.modules name).map before.reportHandler)
      ((handlersOf after.modules name).map after.reportHandler)) :
    List.Forall₂ (fun first second => second.name = first.name ∧ second.types = first.types ∧
      Related first.handlers second.handlers) before.report.modules after.report.modules := by
  have names : before.modules.names = after.modules.names :=
    NameMap.names_eq_of_isSome fun name => (renumbers.present name).symm
  rw [report, report]
  simp only [List.forall₂_map_left_iff, List.forall₂_map_right_iff]
  refine NameMap.forall₂_entries (fun first second => second.name = first.name ∧
    second.types.map after.registry.nameOf = first.types.map before.registry.nameOf ∧
      Related (first.handlers.map before.reportHandler) (second.handlers.map after.reportHandler))
    names ?_
  intro name first second found held
  have kept : second.name = first.name := by
    rw [renumbers.modules.1 name first found, renumbers.modules.2 name second held]
  have types := renumbers.types name
  have handlers := related name
  simp only [typesOf, handlersOf, partOf, found, held, Option.map_some, Option.getD_some]
    at types handlers
  refine ⟨kept, ?_, handlers⟩
  rw [types, List.map_map]
  exact List.map_congr_left fun id _ => renumbers.registry.nameOf id

theorem report_modules_perm :
    List.Forall₂ (fun first second => second.name = first.name ∧ second.types = first.types ∧
      first.handlers.Perm second.handlers) before.report.modules after.report.modules := by
  apply renumbers.report_modules
  intro name
  have perm := (renumbers.handlers name).map after.reportHandler
  have same : ((handlersOf before.modules name).map (Handler.renumber renumbering)).map
      after.reportHandler = (handlersOf before.modules name).map before.reportHandler := by
    rw [List.map_map]
    exact List.map_congr_left fun handler _ => renumbers.reportHandler handler
  rwa [same] at perm

/-- Handlers in the same order make for the same modules. -/
theorem report_modules_eq (ordered : ∀ name,
    (handlersOf before.modules name).map (.renumber renumbering) = handlersOf after.modules name) :
    after.report.modules = before.report.modules := by
  have related : List.Forall₂ (fun first second => second.name = first.name ∧
      second.types = first.types ∧ first.handlers = second.handlers)
        before.report.modules after.report.modules := by
    apply renumbers.report_modules
    intro name
    rw [← ordered name, List.map_map]
    exact List.map_congr_left fun handler _ => (renumbers.reportHandler handler).symm
  have same : List.Forall₂ (· = ·) before.report.modules after.report.modules := by
    refine related.imp fun first second holds => ?_
    rcases first with ⟨name, handlers, types⟩
    rcases second with ⟨name', handlers', types'⟩
    rcases holds with ⟨names, typeLists, handlerLists⟩
    simp only at names typeLists handlerLists
    rw [names, typeLists, handlerLists]
  exact (List.forall₂_eq_eq_eq ▸ same).symm

/-! ## Whole reports -/

theorem report_eq :
    after.report = { before.report with
      modules := after.report.modules
      statistics := before.report.statistics.withWarnings after.report.statistics.warnings } := by
  have statistics : after.report.statistics =
      before.report.statistics.withWarnings after.report.statistics.warnings :=
    renumbers.statistics
  have title : after.report.title = before.report.title := congrArg Info.title renumbers.info
  have version : after.report.version = before.report.version :=
    congrArg Info.version renumbers.info
  have types := renumbers.report_types
  have aliases := renumbers.report_aliases
  have unassigned := renumbers.report_unassigned
  generalize after.report = second at *
  generalize before.report = first at *
  cases second
  cases first
  simp only at *
  rw [title, version, types, aliases, unassigned, ← statistics]

end Build.Renumbers

end Build

end ApiGraph
