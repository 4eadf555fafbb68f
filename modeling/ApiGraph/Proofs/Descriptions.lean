import ApiGraph.Proofs.ClosedReport
import ApiGraph.Proofs.Conversion.Accesses
import ApiGraph.Proofs.Handlers
import ApiGraph.Proofs.Resolution

namespace ApiGraph

/-! # What is said about references

A field that refers to a named type repeats what is said about that type. Its description is looked up
in the document, by following references without regard to what is registered, and still both ways
come to the same definition. -/

open Registry

/-! ## Fields at any depth -/

section Inside

variable {ρ σ : Type}

/-- A field of an object, or of an inline type that stands inside a shape. -/
inductive Shape.HasField : Shape ρ → TypeField ρ → Prop where
  | own {shape : Shape ρ} {field : TypeField ρ} (member : field ∈ shape.fields) :
      shape.HasField field
  | inside {shape inner : Shape ρ} {field : TypeField ρ} (child : .inline inner ∈ shape.children)
      (holds : inner.HasField field) : shape.HasField field

namespace Shape.HasField

variable {shape : Shape ρ} {field : TypeField ρ}

theorem mem_targets (holds : shape.HasField field) {target : ρ}
    (member : target ∈ field.type.targets) : target ∈ shape.targets := by
  induction holds with
  | own inside => exact Shape.mem_targets_of_mem_fields inside member
  | inside child _ induction =>
      refine Shape.mem_targets.mpr ⟨_, child, ?_⟩
      rw [TypeRef.targets]
      exact induction member

theorem rename (holds : shape.HasField field) (change : ρ → σ) :
    (shape.rename change).HasField (TypeField.rename change field) := by
  induction holds with
  | @own shape field member =>
      apply own
      rw [Shape.fields_rename]
      exact List.mem_map_of_mem member
  | @inside shape inner field child _ induction =>
      refine .inside ?_ induction
      rw [Shape.children_rename, ← TypeRef.rename]
      exact List.mem_map_of_mem child

end Shape.HasField

end Inside

/-! ## What a type is made of -/

section Makes

variable {document : Document} {schema : Schema} {shape : Shape String}

/-- What a shape is directly made of is translated from a part of the definition. -/
inductive Document.Makes (document : Document) (schema : Schema) : Shape String → Prop where
  | map {value : SchemaSlot} {type : TypeRef String}
      (found : schema.additionalProperties = some (.schema value))
      (made : document.translateSlot value = some type) : document.Makes schema (.map type)
  | object {fields : List (TypeField String)} (isObject : schema.IsObject)
      (become : List.Forall₂ (document.BecomesField schema) schema.orderedProperties fields) :
      document.Makes schema (.object fields)
  | array {items : SchemaSlot} {type : TypeRef String} (found : schema.items = some items)
      (made : document.translateSlot items = some type) : document.Makes schema (.array type)
  | primitive (primitive : Primitive) (entries : List EnumEntry) :
      document.Makes schema (.primitive primitive entries)

theorem Document.makes_of_translate
    (translated : document.translate schema = some shape) : document.Makes schema shape := by
  cases outline : schema.outline with
  | object properties =>
      have isObject := Schema.isObject_of_outline outline
      rcases (translate_eq_some_iff_of_isObject isObject).mp translated with ⟨fields, rfl, become⟩
      exact .object isObject become
  | map value =>
      rw [translate_eq, outline, translateOutline] at translated
      rcases Option.map_eq_some_iff.mp translated with ⟨type, made, rfl⟩
      exact .map (Schema.outline_eq_map_iff.mp outline) made
  | array items? =>
      rw [translate_eq, outline, translateOutline] at translated
      cases found : schema.items with
      | none =>
          rw [translateArray_of_none _ found] at translated
          cases translated
      | some items =>
          rw [translateArray_eq _ found] at translated
          rcases Option.map_eq_some_iff.mp translated with ⟨type, made, rfl⟩
          exact .array found made
  | primitive primitive =>
      rw [translate_eq, outline, translateOutline] at translated
      cases translated
      exact .primitive primitive schema.enumEntries
  | untyped =>
      rw [translate_eq, outline, translateOutline] at translated
      cases translated
      exact .primitive .unknown []
  | unsupported =>
      rw [translate_eq, outline, translateOutline] at translated
      cases translated
      exact .primitive .unknown []

theorem Document.exists_becomesField_of_mem_fields {field : TypeField String}
    (translated : document.translate schema = some shape) (member : field ∈ shape.fields) :
    ∃ property, document.BecomesField schema property field := by
  cases makes_of_translate translated with
  | object _ become =>
      rcases exists_of_mem_right become member with ⟨property, _, becomes⟩
      exact ⟨property, becomes⟩
  | map | array | primitive => cases member

theorem Document.exists_slot_of_mem_children {child : TypeRef String}
    (translated : document.translate schema = some shape) (member : child ∈ shape.children) :
    ∃ slot, document.translateSlot slot = some child := by
  cases makes_of_translate translated with
  | object _ become =>
      rcases List.mem_map.mp member with ⟨field, inside, rfl⟩
      rcases exists_of_mem_right become inside with ⟨property, _, becomes⟩
      exact ⟨property.2, becomes.type⟩
  | map _ made | array _ made =>
      rw [Shape.children, List.mem_singleton] at member
      exact ⟨_, member ▸ made⟩
  | primitive => cases member

end Makes

/-! ## Fields of translated types -/

section Translation

variable {document : Document} {schema : Schema} {shape : Shape String} {field : TypeField String}
  {slot : SchemaSlot} {path name : String}

/-- Only a reference is translated to a name, and the name is that of a definition of its own. -/
theorem Document.exists_of_translateSlot_named
    (translated : document.translateSlot slot = some (.named name)) :
    ∃ definition, document.schema? name = some (.inline definition) ∧
      document.describe slot = definition.summary? := by
  cases slot with
  | inline schema =>
      rw [translateSlot] at translated
      rcases Option.map_eq_some_iff.mp translated with ⟨_, _, equal⟩
      cases equal
  | reference path =>
      rw [translateSlot] at translated
      rcases Option.map_eq_some_iff.mp translated with ⟨⟨last, definition⟩, designated, equal⟩
      cases equal
      rcases exists_leadsTo_of_designated designated with ⟨first, _, leads⟩
      exact ⟨definition, leads.declared, by rw [describe, designated, Option.bind_some]⟩

theorem Document.exists_of_translateSlot_inline
    (translated : document.translateSlot slot = some (.inline shape)) :
    ∃ schema, document.translate schema = some shape := by
  cases slot with
  | inline schema =>
      rw [translateSlot] at translated
      rcases Option.map_eq_some_iff.mp translated with ⟨_, here, equal⟩
      cases equal
      exact ⟨schema, here⟩
  | reference path =>
      rw [translateSlot] at translated
      rcases Option.map_eq_some_iff.mp translated with ⟨_, _, equal⟩
      cases equal

/-- A field that refers to a type is described by the definition of that type. -/
theorem Document.description_of_hasField (translated : document.translate schema = some shape)
    (holds : shape.HasField field) (named : field.type = .named name) :
    ∃ definition, document.schema? name = some (.inline definition) ∧
      field.description = definition.summary? := by
  induction holds generalizing schema with
  | own member =>
      rcases exists_becomesField_of_mem_fields translated member with ⟨property, becomes⟩
      rw [becomes.description]
      exact exists_of_translateSlot_named (named ▸ becomes.type)
  | inside child _ induction =>
      rcases exists_slot_of_mem_children translated child with ⟨slot, made⟩
      rcases exists_of_translateSlot_inline made with ⟨inner, here⟩
      exact induction here named

end Translation

/-! ## Fields of registered types -/

/-- A field that refers to a registered type says what that type says. -/
def Registry.Describes (registry : Registry) (field : TypeField TypeId) : Prop :=
  ∀ id, field.type = .named id →
    ∃ node, registry.node? id = some node ∧ field.description = node.description

section Registered

variable {document : Document} {registry : Registry} {schema : Schema} {shape : Shape TypeId}
  {field : TypeField TypeId}

theorem Registry.Complete.describes (complete : registry.Complete document)
    (held : HoldsShape document schema registry shape) (holds : shape.HasField field) :
    registry.Describes field := by
  intro id named
  have registered : id < registry.size := by
    apply held.1
    apply holds.mem_targets
    rw [named, TypeRef.targets]
    exact List.mem_singleton_self id
  have found : registry.node? id = some registry.nodes[id] := List.getElem?_eq_getElem registered
  have settled : id ∉ registry.pending := by
    rw [complete.settled]
    exact List.not_mem_nil
  rcases complete.faithful.made found settled with ⟨definition, made⟩
  have renamed : (field.rename registry.nameOf).type = .named registry.nodes[id].name := by
    rw [TypeField.rename, named, TypeRef.rename, nameOf_eq found]
  rcases Document.description_of_hasField held.2 (holds.rename registry.nameOf) renamed with
    ⟨same, declared, described⟩
  rw [made.declared] at declared
  cases declared
  exact ⟨_, found, described.trans made.description.symm⟩

theorem Registry.Describes.of_withoutModules (describes : registry.withoutModules.Describes field) :
    registry.Describes field := by
  intro id named
  rcases describes id named with ⟨_, found, described⟩
  rw [node?_withoutModules] at found
  rcases Option.map_eq_some_iff.mp found with ⟨node, held, rfl⟩
  exact ⟨node, held, described⟩

end Registered

/-! ## Handlers -/

section Handlers

variable {document : Document} {registry : Registry} {entry : OperationEntry} {handler : Handler}

/-- A parameter without a schema has the type of an empty one. -/
theorem Document.parameterType?_eq (document : Document) (parameter : Parameter) :
    document.parameterType? parameter =
      document.translateSlot (parameter.schema.getD (.inline {})) := by
  rw [parameterType?]
  cases parameter.schema with
  | some slot => rfl
  | none =>
      rw [Option.getD_none, translateSlot, translate_eq]
      rfl

theorem Document.exists_slot_of_translateBody {slot? : Option SchemaSlot}
    {body? : Option (TypeRef String)} {body : TypeRef String}
    (translated : document.translateBody slot? = some body?) (member : body ∈ body?) :
    ∃ slot, document.translateSlot slot = some body := by
  cases slot? with
  | none =>
      cases translated
      cases member
  | some slot =>
      rcases Option.map_eq_some_iff.mp translated with ⟨type, here, rfl⟩
      cases member
      exact ⟨slot, here⟩

/-- Every type in a handler is translated from some slot. -/
theorem Handler.Translates.exists_slot (translates : handler.Translates document registry entry)
    {type : TypeRef TypeId} (member : type ∈ handler.typeRefs) :
    ∃ slot, HoldsSlot document slot registry type := by
  suffices ∃ slot, document.translateSlot slot = some (type.rename registry.nameOf) by
    rcases this with ⟨slot, translated⟩
    exact ⟨slot, translates.registered type member, translated⟩
  rcases Document.exists_parts_of_translates translates.translated with
    ⟨_, _, _, _, request, response, _, _, _⟩
  rcases translates.exists_parameters with ⟨_, _, _, _, _, _, _, become⟩
  simp only [typeRefs, List.mem_append, Option.mem_toList, or_assoc] at member
  rcases member with inRequest | inResponse | inParameters
  · exact Document.exists_slot_of_translateBody request (Option.mem_map_of_mem _ inRequest)
  · exact Document.exists_slot_of_translateBody response (Option.mem_map_of_mem _ inResponse)
  · rcases List.mem_map.mp inParameters with ⟨field, inside, rfl⟩
    rcases exists_of_mem_right become inside with ⟨parameter, _, becomes⟩
    exact ⟨_, (document.parameterType?_eq parameter) ▸ becomes.type⟩

end Handlers

/-! ## Builds -/

section Builds

variable {document : Document} {config : Config} {progress : Progress} {grouped : ModuleMap}
  {result : Build} (arises : result.Arises document config progress grouped)

include arises

theorem Build.Arises.describes_of_node {node : TypeNode} {field : TypeField TypeId}
    (member : node ∈ result.registry.nodes) (holds : node.shape.HasField field) :
    result.registry.Describes field := by
  have complete := arises.converted.complete
  rcases List.mem_iff_getElem?.mp member with ⟨id, found⟩
  have kept : progress.registry.node? id = some { node with module := none } := by
    have held : result.registry.node? id = some node := found
    rw [← arises.types, node?_withoutModules, held, Option.map_some]
  have settled : id ∉ progress.registry.pending := by
    rw [complete.settled]
    exact List.not_mem_nil
  rcases complete.faithful.made kept settled with ⟨schema, made⟩
  have held : HoldsShape document schema progress.registry node.shape :=
    ⟨made.registered, made.translated⟩
  exact .of_withoutModules (arises.types ▸ complete.describes held holds)

theorem Build.Arises.describes_of_handler {handler : Handler} {shape : Shape TypeId}
    {field : TypeField TypeId} (member : handler ∈ result.handlers)
    (inside : .inline shape ∈ handler.typeRefs) (holds : shape.HasField field) :
    result.registry.Describes field := by
  have complete := arises.converted.complete
  rcases arises.exists_handlers with ⟨handled, handles, perm⟩
  rcases List.mem_map.mp (perm.mem_iff.mp member) with ⟨pair, paired, rfl⟩
  rcases (handles.translates pair paired).exists_slot inside with ⟨slot, registered, translated⟩
  rw [TypeRef.targets] at registered
  rw [TypeRef.rename] at translated
  rcases Document.exists_of_translateSlot_inline translated with ⟨schema, here⟩
  have held : HoldsShape document schema progress.registry shape := ⟨registered, here⟩
  exact .of_withoutModules (arises.types ▸ complete.describes held holds)

end Builds

/-- The definition that a reference is described by is the one that the converter registers for it. -/
theorem Document.describes_target {document : Document} {path location : String}
    {progress after : Progress} {id : TypeId}
    (occurs : document.Occurs ⟨.reference path location, progress⟩)
    (resolved : (Call.reference path location).perform document progress = (.ok id, after)) :
    ∃ schema, document.schema? (after.registry.nameOf id) = some (.inline schema) ∧
      Referable.Meets document.components.schemas Pointer.schema? (.reference path)
        (.inline schema) ∧
      document.summaryOf (.reference path) = schema.summary? := by
  have yields := yields_resolveReference document progress path location occurs.faithful
  have success : (resolveReference document progress path location).value = .ok id :=
    congrArg Prod.fst resolved
  have state : (resolveReference document progress path location).state = after :=
    congrArg Prod.snd resolved
  rcases yields.means success with ⟨_, schema, designated⟩
  rw [state] at designated
  rcases exists_leadsTo_of_designated designated with ⟨first, target, leads⟩
  refine ⟨schema, leads.declared, leads.meets target, ?_⟩
  rw [summaryOf_eq, describe, designated, Option.bind_some]

/-- In a build, every field that refers to a type says what the type says: inside the registered types
and inside the types of handlers, at any depth. Whatever was converted before, the description of a
reference is found at the definition that the reference is resolved to, at the end of its chain. -/
theorem build_references_described {document : Document} {config : Config} {result : Build}
    (built : build document config = .ok result) :
    (∀ node ∈ result.registry.nodes, ∀ field, node.shape.HasField field →
        result.registry.Describes field) ∧
      (∀ handler ∈ result.handlers, ∀ shape, .inline shape ∈ handler.typeRefs →
        ∀ field, shape.HasField field → result.registry.Describes field) ∧
      ∀ path location progress id after,
        document.Occurs ⟨.reference path location, progress⟩ →
        (Call.reference path location).perform document progress = (.ok id, after) →
          ∃ schema, document.schema? (after.registry.nameOf id) = some (.inline schema) ∧
            Referable.Meets document.components.schemas Pointer.schema? (.reference path)
              (.inline schema) ∧
            document.summaryOf (.reference path) = schema.summary? := by
  rcases exists_arises built with ⟨progress, grouped, arises⟩
  refine ⟨?_, ?_, ?_⟩
  · intro node member field holds
    exact arises.describes_of_node member holds
  · intro handler member shape inside field holds
    exact arises.describes_of_handler member inside holds
  · intro path location progress id after occurs resolved
    exact Document.describes_target occurs resolved

/-- A definition is known by two other names, and a reference by the last of them stands inside the
elements of a list. -/
def Document.boardingShop : Document where
  components := { schemas := [
    ("Stay", .inline {
      properties := [("guests", .inline {
        items := some (.inline {
          properties := [("pet", .reference "#/components/schemas/Guest")] }) })] }),
    ("Guest", .reference "#/components/schemas/Boarder"),
    ("Boarder", .reference "#/components/schemas/Pet"),
    ("Pet", .inline { type := some (.single .object), title := some "A pet" })] }

theorem boardingShop_builds : ∃ result, build .boardingShop {} = .ok result ∧
    result.registry.nodes[0]?.map TypeNode.shape =
      some (.object [⟨"guests", none, .inline (.array (.inline (.object
        [⟨"pet", some "A pet", .named 1, false⟩]))), false⟩]) := by
  have success : ((build .boardingShop {}).toOption.bind fun result =>
      result.registry.nodes[0]?.map TypeNode.shape) =
        some (.object [⟨"guests", none, .inline (.array (.inline (.object
          [⟨"pet", some "A pet", .named 1, false⟩]))), false⟩]) := by cbv
  cases built : build .boardingShop {} with
  | error error =>
      rw [built] at success
      cases success
  | ok result =>
      rw [built] at success
      exact ⟨result, rfl, success⟩

theorem build_references_described_boardingShop :
    ∃ result, build .boardingShop {} = .ok result ∧
      ∃ node ∈ result.registry.nodes, ∃ field, node.shape.HasField field ∧
        field.type = .named 1 ∧ field.description = some "A pet" ∧
        ∃ target, result.registry.node? 1 = some target ∧ target.description = some "A pet" := by
  rcases boardingShop_builds with ⟨result, built, shaped⟩
  rcases Option.map_eq_some_iff.mp shaped with ⟨node, found, shape⟩
  have member := List.mem_of_getElem? found
  have holds : node.shape.HasField ⟨"pet", some "A pet", .named 1, false⟩ := by
    rw [shape]
    exact .inside (.head _) (.inside (.head _) (.own (.head _)))
  rcases (build_references_described built).1 node member _ holds 1 rfl with
    ⟨target, registered, described⟩
  exact ⟨result, built, node, member, _, holds, rfl, rfl, target, registered, described.symm⟩

end ApiGraph
