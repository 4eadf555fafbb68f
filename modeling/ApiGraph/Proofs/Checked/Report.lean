import ApiGraph.Proofs.Checked.Partition
import ApiGraph.Proofs.ClosedReport

namespace ApiGraph

/-! # Pages and reports with checked accesses

A report names every type that it refers to, and the item of a page is found inside the types of a
response. Either result may be missing for other reasons than a failure, so that an access which
succeeds may come to `some none`. -/

namespace Checked

/-! ## Pages -/

def shapeOf (registry : Registry) : TypeRef TypeId → Option (Shape TypeId)
  | .named id => (registry.node? id).map TypeNode.shape
  | .inline shape => some shape

def payload (registry : Registry) (handler : Handler) : Option (Option (TypeRef TypeId)) :=
  match handler.responseBody with
  | none => some none
  | some body => (shapeOf registry body).map fun shape => (shape.field? payloadField).map Field.type

/-- The elements of the first list among some fields. The fields behind it are not accessed. -/
def firstElement (registry : Registry) : List (TypeField TypeId) → Option (Option (TypeRef TypeId))
  | [] => some none
  | field :: rest =>
      (shapeOf registry field.type).bind fun shape =>
        match shape.element? with
        | some element => some (some element)
        | none => firstElement registry rest

def pageItem (registry : Registry) (handler : Handler) : Option (Option (TypeRef TypeId)) :=
  (payload registry handler).bind fun payload? =>
    match payload? with
    | none => some none
    | some payload =>
        (shapeOf registry payload).bind fun shape => firstElement registry shape.fields

/-- The response is looked into only where the method and the parameters are those of a query for
pages. -/
def pageInfo (registry : Registry) (handler : Handler)
    (indexCandidates sizeCandidates : List String) : Option (Option Handler.PageInfo) :=
  if handler.method != "GET" then some none
  else
    let names := handler.queryParams.map Field.name
    match (Handler.orDefaults indexCandidates defaultPageIndexCandidates).find?
      names.contains with
    | none => some none
    | some index =>
        match (Handler.orDefaults sizeCandidates defaultPageSizeCandidates).find? fun candidate =>
          names.contains candidate && candidate != index with
        | none => some none
        | some size =>
            (pageItem registry handler).map fun item? => item?.map fun item => ⟨item, index, size⟩

/-! ## Names instead of numbers -/

mutual

def renameType (name : TypeId → Option String) : TypeRef TypeId → Option (TypeRef String)
  | .named target => (name target).map .named
  | .inline shape => (renameShape name shape).map .inline

def renameShape (name : TypeId → Option String) : Shape TypeId → Option (Shape String)
  | .primitive primitive entries => some (.primitive primitive entries)
  | .object fields => (renameFields name fields).map .object
  | .array element => (renameType name element).map .array
  | .map value => (renameType name value).map .map

def renameFields (name : TypeId → Option String) :
    List (Field (TypeRef TypeId)) → Option (List (Field (TypeRef String)))
  | [] => some []
  | ⟨field, description, type, required⟩ :: rest =>
      (renameType name type).bind fun type =>
        (renameFields name rest).map (⟨field, description, type, required⟩ :: ·)

end

/-! ## Reports -/

def aliases (registry : Registry) : Option (Entries String) :=
  (registry.bindings.mapM fun entry => (nameOf registry entry.2).map fun type => (entry.1, type)).map
    fun named => named.filter fun (name, type) => type != name

section

variable (result : Build)

def reportPage (handler : Handler) : Option (Option PageReport) := do
  let page? ← pageInfo result.registry handler result.config.pageIndexCandidates
    result.config.pageSizeCandidates
  page?.mapM fun page => do
    let item ← renameType (nameOf result.registry) page.item
    return ⟨item, page.indexName, page.sizeName⟩

def reportHandler (handler : Handler) : Option HandlerReport := do
  let name := nameOf result.registry
  let headerParams ← renameFields name handler.headerParams
  let pathParams ← renameFields name handler.pathParams
  let queryParams ← renameFields name handler.queryParams
  let requestBody ← handler.requestBody.mapM (renameType name)
  let responseBody ← handler.responseBody.mapM (renameType name)
  let page ← reportPage result handler
  return {
    name := handler.name
    method := handler.method
    path := handler.path
    description := handler.description
    contentType := handler.contentType
    headerParams := headerParams
    pathParams := pathParams
    queryParams := queryParams
    requestBody := requestBody
    responseBody := responseBody
    page := page }

def reportModule (module : Module) : Option ModuleReport := do
  let handlers ← module.handlers.mapM (reportHandler result)
  let types ← module.types.mapM (nameOf result.registry)
  return ⟨module.name, handlers, types⟩

def reportType (id : TypeId) : Option TypeReport := do
  let node ← result.registry.node? id
  let shape ← renameShape (nameOf result.registry) node.shape
  return ⟨node.name, node.description, node.module, shape⟩

def report : Option Report := do
  let modules ← result.modules.entries.mapM fun entry => reportModule result entry.2
  let types ← result.order.order.mapM (reportType result)
  let aliases ← aliases result.registry
  return {
    title := result.info.title
    version := result.info.version
    modules := modules
    types := types
    aliases := .ofEntries aliases
    unassigned := result.unassigned
    statistics := result.statistics }

end

/-! ## No access fails -/

section Pages

variable {registry : Registry} {handler : Handler}

theorem shapeOf_eq {type : TypeRef TypeId} (registers : registry.Registers type.targets) :
    shapeOf registry type = some (registry.shapeOf type) := by
  cases type with
  | inline shape => rfl
  | named id =>
      have registered : id < registry.size := registers id List.mem_cons_self
      rcases Registry.exists_node registered with ⟨node, found⟩
      rw [shapeOf, Registry.shapeOf, found]
      rfl

theorem payload_eq (registers : ∀ type ∈ handler.typeRefs, registry.Registers type.targets) :
    payload registry handler = some (handler.payload? registry) := by
  unfold payload Handler.payload?
  cases response : handler.responseBody with
  | none => rfl
  | some body =>
      have inside : body ∈ handler.typeRefs := by simp [Handler.typeRefs, response]
      dsimp only
      rw [shapeOf_eq (registers body inside), Option.map_some]
      cases found : (registry.shapeOf body).field? payloadField <;> simp [found]

theorem firstElement_eq {fields : List (TypeField TypeId)}
    (registers : ∀ field ∈ fields, registry.Registers field.type.targets) :
    firstElement registry fields =
      some (fields.findSome? fun field => (registry.shapeOf field.type).element?) := by
  induction fields with
  | nil => rfl
  | cons field rest induction =>
      rw [firstElement, shapeOf_eq (registers field List.mem_cons_self), Option.bind_some,
        List.findSome?_cons]
      cases (registry.shapeOf field.type).element? with
      | some element => rfl
      | none => exact induction fun other member => registers other (List.mem_cons_of_mem _ member)

variable (closed : registry.IsClosed)
  (registers : ∀ type ∈ handler.typeRefs, registry.Registers type.targets)

include closed registers

theorem pageItem_eq :
    pageItem registry handler = some ((handler.payload? registry).bind fun payload =>
      (registry.shapeOf payload).fields.findSome? fun field =>
        (registry.shapeOf field.type).element?) := by
  rw [pageItem, payload_eq registers, Option.bind_some]
  cases paid : handler.payload? registry with
  | none => rfl
  | some payload =>
      have payloads := Handler.registers_payload closed registers paid
      dsimp only
      rw [shapeOf_eq payloads, Option.bind_some, Option.bind_some]
      apply firstElement_eq
      intro field inside target member
      exact closed.registers_shapeOf payloads target
        (Shape.mem_targets_of_mem_fields inside member)

theorem pageInfo_eq (indexCandidates sizeCandidates : List String) :
    pageInfo registry handler indexCandidates sizeCandidates =
      some (handler.pageInfo? registry indexCandidates sizeCandidates) := by
  unfold pageInfo Handler.pageInfo?
  split
  next => rfl
  next =>
    dsimp only
    cases index : (Handler.orDefaults indexCandidates defaultPageIndexCandidates).find?
      (handler.queryParams.map Field.name).contains with
    | none => rfl
    | some index =>
        simp only [Option.bind_eq_bind, Option.bind_some]
        split
        next none => rw [none]; rfl
        next size found =>
          rw [found, Option.bind_some, pageItem_eq closed registers, Option.map_some]
          cases handler.payload? registry with
          | none => rfl
          | some payload =>
              rw [Option.bind_some, Option.bind_some, Option.map_eq_bind]
              rfl

end Pages

section Names

variable {registry : Registry}

mutual

theorem renameType_eq (type : TypeRef TypeId) (registers : registry.Registers type.targets) :
    renameType (nameOf registry) type = some (type.rename registry.nameOf) := by
  cases type with
  | named target =>
      rw [renameType, nameOf_eq (registers target List.mem_cons_self), TypeRef.rename]
      rfl
  | inline shape =>
      rw [renameType, renameShape_eq shape (by rwa [TypeRef.targets] at registers), TypeRef.rename]
      rfl

theorem renameShape_eq (shape : Shape TypeId) (registers : registry.Registers shape.targets) :
    renameShape (nameOf registry) shape = some (shape.rename registry.nameOf) := by
  rw [Shape.targets.eq_def] at registers
  cases shape with
  | primitive primitive entries => rw [renameShape, Shape.rename]
  | object fields =>
      rw [renameShape, renameFields_eq fields registers, Shape.rename]
      rfl
  | array element =>
      rw [renameShape, renameType_eq element registers, Shape.rename]
      rfl
  | map value =>
      rw [renameShape, renameType_eq value registers, Shape.rename]
      rfl

theorem renameFields_eq (fields : List (TypeField TypeId))
    (registers : registry.Registers (fieldTargets fields)) :
    renameFields (nameOf registry) fields = some (ApiGraph.renameFields registry.nameOf fields) := by
  match fields with
  | [] => rfl
  | ⟨name, description, type, required⟩ :: rest =>
      have first := renameType_eq type fun target member =>
        registers target (List.mem_append_left _ member)
      have others := renameFields_eq rest fun target member =>
        registers target (List.mem_append_right _ member)
      rw [renameFields, first, others, ApiGraph.renameFields]
      rfl

end

theorem mapM_renameType_eq (type? : Option (TypeRef TypeId))
    (registers : ∀ type ∈ type?, registry.Registers type.targets) :
    type?.mapM (renameType (nameOf registry)) = some (type?.map (·.rename registry.nameOf)) := by
  cases type? with
  | none => rfl
  | some type =>
      rw [Option.mapM_some, renameType_eq type (registers type rfl)]
      rfl

theorem aliases_eq (bounds : registry.InBounds) :
    aliases registry =
      some (registry.aliases.map fun (name, id) => (name, registry.nameOf id)) := by
  have named : (registry.bindings.mapM fun entry =>
        (nameOf registry entry.2).map fun type => (entry.1, type)) =
      some (registry.bindings.map fun entry => (entry.1, registry.nameOf entry.2)) := by
    apply mapM_eq_some
    intro entry member
    rw [nameOf_eq (bounds.bound entry member), Option.map_some]
  rw [aliases, named, Option.map_some, List.filter_map, Registry.aliases]
  rfl

end Names

end Checked

/-! ## Reports of builds -/

/-- Everything that a build refers to is registered. -/
structure Build.InBounds (result : Build) : Prop where
  registry : result.registry.InBounds
  order : result.registry.Registers result.order.order
  types : ∀ entry ∈ result.modules.entries, result.registry.Registers entry.2.types
  handlers : ∀ entry ∈ result.modules.entries, ∀ handler ∈ entry.2.handlers,
    ∀ type ∈ handler.typeRefs, result.registry.Registers type.targets

theorem Build.Arises.inBounds {document : Document} {config : Config} {progress : Progress}
    {grouped : ModuleMap} {result : Build}
    (arises : result.Arises document config progress grouped) : result.InBounds where
  registry := by
    rw [← Registry.inBounds_withoutModules, arises.types]
    exact arises.converted.complete.faithful.inBounds
  order id member := (arises.mem_order_iff id).mp member
  types entry member id listed := by
    rw [arises.types_eq ((NameMap.mem_entries_iff _).mp member)] at listed
    exact (arises.mem_order_iff id).mp (List.mem_filter.mp listed).1
  handlers _ member _ listed := arises.registers_handler member listed

namespace Checked

section Reports

variable {result : Build} (bounds : result.InBounds)

include bounds

theorem reportPage_eq {handler : Handler}
    (registers : ∀ type ∈ handler.typeRefs, result.registry.Registers type.targets) :
    reportPage result handler = some ((result.pageInfo? handler).map result.reportPage) := by
  rw [reportPage, pageInfo_eq bounds.registry.closed registers, Build.pageInfo?]
  cases found : handler.pageInfo? result.registry result.config.pageIndexCandidates
    result.config.pageSizeCandidates with
  | none => rfl
  | some page =>
      have item := renameType_eq page.item
        (Handler.registers_item bounds.registry.closed registers found)
      simp only [Option.bind_eq_bind, Option.bind_some, Option.mapM_some, item]
      rfl

theorem reportHandler_eq {handler : Handler}
    (registers : ∀ type ∈ handler.typeRefs, result.registry.Registers type.targets) :
    reportHandler result handler = some (result.reportHandler handler) := by
  have fields (fields : List (TypeField TypeId)) (inside : ∀ field ∈ fields, field ∈ handler.params) :
      renameFields (nameOf result.registry) fields =
        some (ApiGraph.renameFields result.registry.nameOf fields) := by
    apply renameFields_eq
    intro target member
    rcases mem_fieldTargets.mp member with ⟨field, listed, mentioned⟩
    refine registers field.type ?_ target mentioned
    exact List.mem_append_right _ (List.mem_map_of_mem (inside field listed))
  have header := fields handler.headerParams (by simp +contextual [Handler.params])
  have path := fields handler.pathParams (by simp +contextual [Handler.params])
  have query := fields handler.queryParams (by simp +contextual [Handler.params])
  have request := mapM_renameType_eq handler.requestBody fun type given =>
    registers type (by simp [Handler.typeRefs, Option.mem_def.mp given])
  have response := mapM_renameType_eq handler.responseBody fun type given =>
    registers type (by simp [Handler.typeRefs, Option.mem_def.mp given])
  simp only [reportHandler, header, path, query, request, response, reportPage_eq bounds registers,
    Option.bind_eq_bind, Option.bind_some]
  rfl

theorem reportModule_eq {entry : String × Module} (member : entry ∈ result.modules.entries) :
    reportModule result entry.2 = some (result.reportModule entry.2.name entry.2) := by
  have handlers : entry.2.handlers.mapM (reportHandler result) =
      some (entry.2.handlers.map result.reportHandler) :=
    mapM_eq_some fun handler listed =>
      reportHandler_eq bounds (bounds.handlers entry member handler listed)
  have types : entry.2.types.mapM (nameOf result.registry) =
      some (entry.2.types.map result.registry.nameOf) :=
    mapM_eq_some fun id listed => nameOf_eq (bounds.types entry member id listed)
  simp only [reportModule, handlers, types, Option.bind_eq_bind, Option.bind_some]
  rfl

theorem reportType_eq {id : TypeId} {node : TypeNode} (found : result.registry.node? id = some node) :
    reportType result id = some (result.reportType node) := by
  have shape := renameShape_eq node.shape (bounds.registry.closed.registers_shape found)
  simp only [reportType, found, shape, Option.bind_eq_bind, Option.bind_some]
  rfl

/-- Every type in the order is registered, so none is passed over. -/
theorem reportTypes_eq {ids : List TypeId} (registers : result.registry.Registers ids) :
    ids.mapM (reportType result) =
      some (ids.filterMap fun id => (result.registry.node? id).map result.reportType) := by
  induction ids with
  | nil => rfl
  | cons id rest induction =>
      rcases Registry.exists_node (registers id List.mem_cons_self) with ⟨node, found⟩
      rw [List.mapM_cons, reportType_eq bounds found,
        induction fun other member => registers other (List.mem_cons_of_mem _ member),
        List.filterMap_cons, found]
      rfl

theorem report_eq : report result = some result.report := by
  have modules : (result.modules.entries.mapM fun entry => reportModule result entry.2) =
      some (result.modules.entries.map fun entry =>
        result.reportModule entry.2.name entry.2) :=
    mapM_eq_some fun entry member => reportModule_eq bounds member
  simp only [report, modules, reportTypes_eq bounds bounds.order, aliases_eq bounds.registry,
    Option.bind_eq_bind, Option.bind_some]
  rfl

end Reports

end Checked

end ApiGraph
