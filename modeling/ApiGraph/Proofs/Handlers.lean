import ApiGraph.Document.Reader
import ApiGraph.Proofs.Matching
import ApiGraph.Proofs.Records
import Mathlib

namespace ApiGraph

/-! # The handlers of a build

Every operation becomes one handler. The handlers of a module are what its own operations are
converted to, in the order of the document, and a handler has the parameters of its operation, each
at its location and in order. Cookies are left out. -/

open Converting ApiGraph.Partition
open Source (Data Key)

/-! ## Operations of a path that is read

A path knows its operations by their methods, so it does not matter where they stand in the data. -/

theorem PathItem.ofData?_perm {members others : List (Key × Data)} (perm : members.Perm others) :
    PathItem.ofData? (.map members) = PathItem.ofData? (.map others) := by
  rw [ofData?, ofData?, Data.record?_perm perm]

/-! ## Parameters -/

/-- A field says what its parameter says. -/
structure Document.Becomes (document : Document) (nameOf : TypeId → String)
    (parameter : Parameter) (field : TypeField TypeId) : Prop where
  name : field.name = parameter.name
  description : field.description = parameter.description
  required : field.required = parameter.required
  type : document.parameterType? parameter = some (field.type.rename nameOf)

section Parameters

variable {document : Document} {nameOf : TypeId → String} {parameters : List Parameter}

theorem Document.becomes_of_translates {parameter : Parameter} {field : TypeField TypeId}
    {location : ParameterLocation}
    (translated : document.translateParameter parameter =
      some (location, field.rename nameOf)) :
    document.Becomes nameOf parameter field := by
  rcases Option.map_eq_some_iff.mp translated with ⟨type, found, equal⟩
  simp only [TypeField.rename, Prod.mk.injEq, Field.mk.injEq] at equal
  rcases equal with ⟨_, name, description, same, required⟩
  exact ⟨name.symm, description.symm, required.symm, same ▸ found⟩

theorem Document.location_of_translates {parameter : Parameter}
    {field : ParameterLocation × TypeField String}
    (translated : document.translateParameter parameter = some field) :
    parameter.location = field.1 := by
  rcases Option.map_eq_some_iff.mp translated with ⟨type, _, rfl⟩
  rfl

theorem Document.forall₂_of_translateParameters
    {fields : List (ParameterLocation × TypeField String)}
    (translated : document.translateParameters parameters = some fields) :
    List.Forall₂ (fun parameter field => document.translateParameter parameter = some field)
      parameters fields := by
  induction parameters generalizing fields with
  | nil =>
      cases translated
      exact .nil
  | cons parameter rest induction =>
      rw [translateParameters] at translated
      rcases Option.bind_eq_some_iff.mp translated with ⟨field, here, others⟩
      rcases Option.map_eq_some_iff.mp others with ⟨later, there, rfl⟩
      exact .cons here (induction there)

/-- The fields at one location are those of the parameters at that location. -/
theorem Document.forall₂_becomes {fields : List (ParameterLocation × TypeField String)}
    {location : ParameterLocation} {placed : List (TypeField TypeId)}
    (translated : document.translateParameters parameters = some fields)
    (named : renameFields nameOf placed = namedFieldsAt location fields) :
    List.Forall₂ (document.Becomes nameOf) (parameters.filter (·.location == location))
      placed := by
  have kept : List.Forall₂
      (fun parameter field => document.translateParameter parameter = some field)
      (parameters.filter (·.location == location))
      (fields.filter fun placed => placed.1 == location) := by
    refine List.rel_filter ?_ (forall₂_of_translateParameters translated)
    intro parameter field here
    simp only [location_of_translates here]
  have paired : List.Forall₂ (fun parameter field =>
        ∃ place, document.translateParameter parameter = some (place, field))
      (parameters.filter (·.location == location)) (namedFieldsAt location fields) := by
    rw [namedFieldsAt, List.forall₂_map_right_iff]
    exact kept.imp fun _ field here => ⟨field.1, here⟩
  rw [← named, renameFields_eq_map, List.forall₂_map_right_iff] at paired
  refine paired.imp ?_
  intro parameter field here
  rcases here with ⟨place, here⟩
  exact becomes_of_translates here

/-- Whatever is no cookie stands at one of three locations. -/
theorem perm_locations (parameters : List Parameter) :
    (parameters.filter (·.location == .header) ++ parameters.filter (·.location == .path) ++
      parameters.filter (·.location == .query)).Perm
        (parameters.filter (·.location != .cookie)) := by
  induction parameters with
  | nil => exact .nil
  | cons parameter rest induction =>
      simp only [List.filter_cons]
      cases parameter.location with
      | cookie => exact induction
      | header => exact induction.cons parameter
      | path =>
          refine .trans ?_ (induction.cons parameter)
          exact List.perm_middle.append_right _
      | query => exact List.perm_middle.trans (induction.cons parameter)

end Parameters

/-! ## Operations -/

/-- The handler is what the operation is converted to once all components have been, and it has the
parameters of the operation but for cookies. -/
structure Document.BecomesHandler (document : Document) (nameOf : TypeId → String)
    (entry : OperationEntry) (handler : Handler) : Prop where
  converted : ∀ statistics, ((convertOperation document entry).run
    ⟨(convertComponents document {}).state.registry, statistics⟩).1 = .ok handler
  path : handler.path = entry.path
  method : handler.method = entry.method.name
  parameters : ∃ merged, collectParameters document entry entry.handlerName = .ok merged ∧
    List.Forall₂ (document.Becomes nameOf) (merged.filter (·.location == .header))
      handler.headerParams ∧
    List.Forall₂ (document.Becomes nameOf) (merged.filter (·.location == .path))
      handler.pathParams ∧
    List.Forall₂ (document.Becomes nameOf) (merged.filter (·.location == .query))
      handler.queryParams ∧
    ∃ surviving, surviving.Perm (merged.filter (·.location != .cookie)) ∧
      List.Forall₂ (document.Becomes nameOf) surviving handler.params

theorem filter_location {location : ParameterLocation} (kept : location ≠ .cookie)
    (parameters : List Parameter) :
    (parameters.filter (·.location != .cookie)).filter (·.location == location) =
      parameters.filter (·.location == location) := by
  rw [List.filter_filter]
  apply List.filter_congr
  intro parameter _
  by_cases here : parameter.location = location
  · simp [here, kept]
  · simp [here]

theorem Document.place_of_translates {document : Document} {entry : OperationEntry}
    {handler : NamedHandler} (translated : document.translateOperation entry = some handler) :
    handler.name = entry.handlerName ∧ handler.path = entry.path ∧
      handler.method = entry.method.name := by
  rcases translateOperation_eq_some translated with ⟨parts, _, translated⟩
  rcases Option.bind_eq_some_iff.mp translated with ⟨fields, _, rest⟩
  rcases Option.bind_eq_some_iff.mp rest with ⟨requestBody, _, last⟩
  rcases Option.map_eq_some_iff.mp last with ⟨responseBody, _, rfl⟩
  exact ⟨rfl, rfl, rfl⟩

section Operations

variable {document : Document} {registry : Registry} {entry : OperationEntry} {handler : Handler}

theorem Handler.Translates.exists_parameters
    (translates : handler.Translates document registry entry) :
    ∃ merged, collectParameters document entry entry.handlerName = .ok merged ∧
      List.Forall₂ (document.Becomes registry.nameOf) (merged.filter (·.location == .header))
        handler.headerParams ∧
      List.Forall₂ (document.Becomes registry.nameOf) (merged.filter (·.location == .path))
        handler.pathParams ∧
      List.Forall₂ (document.Becomes registry.nameOf) (merged.filter (·.location == .query))
        handler.queryParams ∧
      ∃ surviving, surviving.Perm (merged.filter (·.location != .cookie)) ∧
        List.Forall₂ (document.Becomes registry.nameOf) surviving handler.params := by
  rcases Document.exists_parts_of_translates translates.translated with
    ⟨parts, fields, taken, translated, _, _, inHeader, inPath, inQuery⟩
  rcases Document.operationParts_eq_ok_iff.mp taken with ⟨merged, collected, _, _, kept⟩
  rw [kept] at translated
  have header := Document.forall₂_becomes translated inHeader
  have path := Document.forall₂_becomes translated inPath
  have query := Document.forall₂_becomes translated inQuery
  rw [filter_location (by decide)] at header path query
  exact ⟨merged, collected, header, path, query, _, perm_locations merged,
    List.rel_append (List.rel_append header path) query⟩

theorem Handler.Translates.converts (translates : handler.Translates document registry entry)
    (complete : registry.Complete document) (definitions : document.DefinitionsHold)
    (statistics : Statistics) :
    ((convertOperation document entry).run ⟨registry, statistics⟩).1 = .ok handler := by
  have supports := Document.supportsOperation_of_translates translates.translated
  rcases (succeedsIff_convertOperation complete.chainsEnd definitions entry ⟨registry, statistics⟩
    complete.faithful).mpr supports with ⟨other, success⟩
  rcases performs_convertOperation complete entry statistics other success with
    ⟨_, _, retranslates, _⟩
  have same : handler = other := by
    apply complete.faithful.isNamed.handler_eq translates.registered retranslates.registered
    exact Option.some.inj (translates.translated.symm.trans retranslates.translated)
  rw [success, same]

theorem Handler.Translates.becomesHandler
    (translates : handler.Translates document registry entry)
    (complete : registry.Complete document) (definitions : document.DefinitionsHold)
    (components : registry = (convertComponents document {}).state.registry) :
    document.BecomesHandler registry.nameOf entry handler where
  converted := components ▸ translates.converts complete definitions
  path := (Document.place_of_translates translates.translated).2.1
  method := (Document.place_of_translates translates.translated).2.2
  parameters := translates.exists_parameters

end Operations

/-- Handlers are known by the places of their operations. -/
theorem Document.places_eq {document : Document} {nameOf : TypeId → String}
    {entries : List OperationEntry} {handlers : List Handler}
    (become : List.Forall₂ (document.BecomesHandler nameOf) entries handlers) :
    handlers.map (fun handler => (handler.path, handler.method)) =
      entries.map fun entry => (entry.path, entry.method.name) := by
  induction become with
  | nil => rfl
  | cons here _ induction => rw [List.map_cons, List.map_cons, here.path, here.method, induction]

/-! ## Modules -/

theorem Handles.forall₂_handlersFor {document : Document} {registry : Registry}
    {entries : List OperationEntry} {handled : Handled}
    (handles : Handles document registry entries handled) (fallback name : String) :
    List.Forall₂ (fun entry handler => handler.Translates document registry entry)
      (entries.filter fun entry => entry.moduleName fallback == name)
      (handlersFor fallback handled name) := by
  rw [← handles.entries, handlersFor, List.filter_map, List.forall₂_map_left_iff,
    List.forall₂_map_right_iff]
  apply List.forall₂_same.mpr
  intro pair member
  exact handles.translates pair (List.mem_filter.mp member).1

section Arises

variable {document : Document} {config : Config} {progress : Progress} {grouped : ModuleMap}
  {result : Build} {name : String} {module : Module}

theorem Build.Arises.forall₂_translates (arises : result.Arises document config progress grouped)
    (found : result.module? name = some module) :
    List.Forall₂ (fun entry handler => handler.Translates document progress.registry entry)
      (document.operations.filter fun entry => entry.moduleName config.fallbackModule == name)
      module.handlers := by
  rcases arises.converted.handled with ⟨handled, handles, added⟩
  have handlers : module.handlers = handlersFor config.fallbackModule handled name := by
    have held := arises.handlersOf_eq name
    rw [added, handlersOf_addHandlers] at held
    rw [Build.module?] at found
    rw [handlersOf, partOf, found] at held
    exact held
  rw [handlers]
  exact handles.forall₂_handlersFor config.fallbackModule name

theorem Build.Arises.forall₂_handlers (arises : result.Arises document config progress grouped)
    (definitions : document.DefinitionsHold) (found : result.module? name = some module) :
    List.Forall₂ (document.BecomesHandler result.registry.nameOf)
      (document.operations.filter fun entry => entry.moduleName config.fallbackModule == name)
      module.handlers := by
  rw [funext arises.nameOf]
  refine (arises.forall₂_translates found).imp ?_
  intro entry handler translates
  exact translates.becomesHandler arises.converted.complete definitions arises.converted.registry

end Arises

/-- A module has a handler of a name exactly when one of its operations goes by that name. -/
theorem Build.handler?_isSome_iff {document : Document} {config : Config} {result : Build}
    (built : build document config = .ok result) {name : String} {module : Module}
    (found : result.module? name = some module) (called : String) :
    (module.handler? called).isSome ↔ ∃ entry ∈ document.operations,
      entry.moduleName config.fallbackModule = name ∧ entry.handlerName = called := by
  rcases exists_arises built with ⟨progress, grouped, arises⟩
  have names : module.handlers.map Handler.name =
      (document.operations.filter fun entry =>
        entry.moduleName config.fallbackModule == name).map OperationEntry.handlerName := by
    apply List.forall₂_eq_eq_eq.le
    rw [List.forall₂_map_left_iff, List.forall₂_map_right_iff]
    refine (arises.forall₂_translates found).flip.imp fun handler entry translates => ?_
    exact (Document.place_of_translates translates.translated).1
  have member : (module.handler? called).isSome ↔ called ∈ module.handlers.map Handler.name := by
    simp [Module.handler?]
  rw [member, names]
  simp [and_assoc]

theorem PathMethod.isMethodName_name (method : PathMethod) : isMethodName method.name := by
  cases method <;> decide +kernel

/-- The methods of all handlers are names that a method may have. -/
theorem Build.isMethodName_method {document : Document} {config : Config} {result : Build}
    (built : build document config = .ok result) {name : String} {module : Module}
    (found : result.module? name = some module) :
    ∀ handler ∈ module.handlers, isMethodName handler.method := by
  rcases exists_arises built with ⟨progress, grouped, arises⟩
  rcases (build_succeeds_iff_supported document config).mp ⟨result, built⟩ with
    ⟨_, definitions, _⟩
  have places := Document.places_eq (arises.forall₂_handlers definitions found)
  intro handler member
  have placed : (handler.path, handler.method) ∈
      module.handlers.map fun handler => (handler.path, handler.method) :=
    List.mem_map.mpr ⟨handler, member, rfl⟩
  rw [places] at placed
  rcases List.mem_map.mp placed with ⟨entry, _, same⟩
  rw [← (Prod.mk.inj same).2]
  exact entry.method.isMethodName_name

/-- Every operation has a module, and the handlers of a module are what its operations become, in the
order of the document. The members of a path may be written in any order. -/
theorem build_handlers {document : Document} {config : Config} {result : Build}
    (built : build document config = .ok result) :
    (document.operations = document.paths.flatMap fun (path, item) =>
        [.get, .put, .post, .delete, .options, .head, .patch, .trace].filterMap fun method =>
          (item.operation? method).map fun operation => ⟨path, method, item, operation⟩) ∧
      (∀ members others : List (Key × Data), members.Perm others →
        PathItem.ofData? (.map members) = PathItem.ofData? (.map others)) ∧
      (∀ entry ∈ document.operations,
        ∃ module, result.module? (entry.moduleName config.fallbackModule) = some module) ∧
      ∀ name module, result.module? name = some module →
        module.name = name ∧
        List.Forall₂ (document.BecomesHandler result.registry.nameOf)
          (document.operations.filter fun entry => entry.moduleName config.fallbackModule == name)
          module.handlers := by
  rcases exists_arises built with ⟨progress, grouped, arises⟩
  rcases (build_succeeds_iff_supported document config).mp ⟨result, built⟩ with
    ⟨_, definitions, _⟩
  refine ⟨rfl, fun members others => PathItem.ofData?_perm, ?_, ?_⟩
  · intro entry member
    apply Option.isSome_iff_exists.mp
    exact (arises.module?_isSome _).mpr (.inl ⟨entry, member, rfl⟩)
  · intro name module found
    exact ⟨arises.named name module found, arises.forall₂_handlers definitions found⟩

/-- Two paths whose operations go to two modules, one of them the fallback. -/
def Document.counters : Document :=
  { openPetShop with paths := [
      ("/pets", {
        parameters := [
          .inline { name := "session", location := .cookie },
          .inline { name := "page", location := .query }]
        operation? := fun
          | .post => some { tags := ["pets"] }
          | .get => some { tags := ["pets", "default"] }
          | .delete => some {}
          | _ => none }),
      ("/owners", {
        operation? := fun
          | .trace => some { tags := ["pets"] }
          | .get => some { tags := ["default"] }
          | _ => none })] }

theorem counters_builds : ∃ result, build .counters .petShop = .ok result :=
  exists_build (by cbv)

theorem build_handlers_counters :
    ∃ result, build .counters .petShop = .ok result ∧
      ∃ module, result.module? "pets" = some module ∧
        module.handlers.map (fun handler => (handler.path, handler.method)) =
          [("/pets", "GET"), ("/pets", "POST"), ("/owners", "TRACE")] := by
  rcases counters_builds with ⟨result, built⟩
  rcases build_handlers built with ⟨_, _, modules, handlers⟩
  have tagged : ∃ entry ∈ Document.counters.operations,
      entry.moduleName Config.petShop.fallbackModule = "pets" := ⟨_, .head _, rfl⟩
  rcases tagged with ⟨entry, member, own⟩
  rcases modules entry member with ⟨module, found⟩
  rw [own] at found
  refine ⟨result, built, module, found, ?_⟩
  rw [Document.places_eq (handlers "pets" module found).2]
  decide +kernel

end ApiGraph
