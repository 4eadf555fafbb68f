import ApiGraph.Proofs.Conversion.Complete
import ApiGraph.Proofs.Json
import ApiGraph.Proofs.Renaming
import ApiGraph.Report

namespace ApiGraph

/-! # Types read back from reports

The JSON form of a type has no mark of its own for what is left out: a reference is told from an
inline type, and an enumeration from another type, by the members that there are. A reader that looks
for these members recovers the type, whatever JSON values stand for the values of an enumeration. -/

/-! ## Reading -/

def Primitive.all : List Primitive := [.int, .float, .string, .bool, .binary, .unknown]

def Primitive.ofName? (name : String) : Option Primitive :=
  Primitive.all.find? fun primitive => primitive.name == name

def EnumEntry.ofJson? (json : Json) : Option EnumEntry :=
  (json.member? "value").map fun value => { name := json.text? "name", value := value }

/-- The entries of an enumeration; a type that is none has no member for them. -/
def entriesOfJson? : Option (List Json) → Option (List EnumEntry)
  | none => some []
  | some items => items.mapM EnumEntry.ofJson?

mutual

def TypeRef.ofJson? (json : Json) : Option (TypeRef String) :=
  match json.member? "$ref" with
  | some name => name.string?.map .named
  | none => (Shape.ofJson? json).map .inline
termination_by (sizeOf json, 1)

def Shape.ofJson? (json : Json) : Option (Shape String) :=
  (json.text? "kind").bind fun kind =>
    if kind = "primitive" then
      ((json.text? "primitive").bind Primitive.ofName?).bind fun primitive =>
        (entriesOfJson? ((json.member? "enum_entries").bind Json.array?)).map (.primitive primitive)
    else if kind = "object" then
      ((json.items? "fields").bind fun items => fieldsOfJson? items.val).map .object
    else if kind = "array" then
      ((json.part? "element").bind fun element => TypeRef.ofJson? element.val).map .array
    else if kind = "map" then
      ((json.part? "value").bind fun value => TypeRef.ofJson? value.val).map .map
    else none
termination_by (sizeOf json, 0)
decreasing_by
  · exact Prod.Lex.left _ _ items.property
  · exact Prod.Lex.left _ _ element.property
  · exact Prod.Lex.left _ _ value.property

def fieldsOfJson? (items : List Json) : Option (List (TypeField String)) :=
  match items with
  | [] => some []
  | json :: rest =>
      (json.text? "name").bind fun name =>
        ((json.part? "type").bind fun type => TypeRef.ofJson? type.val).bind fun type =>
          ((json.member? "required").bind Json.bool?).bind fun required =>
            (fieldsOfJson? rest).map (⟨name, json.text? "description", type, required⟩ :: ·)
termination_by (sizeOf items, 0)
decreasing_by
  · apply Prod.Lex.left
    exact Nat.lt_trans type.property (by simp only [List.cons.sizeOf_spec]; omega)
  · apply Prod.Lex.left
    simp only [List.cons.sizeOf_spec]
    omega

end

def TypeReport.ofJson? (json : Json) : Option TypeReport :=
  (json.text? "name").bind fun name => (Shape.ofJson? json).map fun shape => {
    name := name
    description := json.text? "description"
    module := json.text? "module"
    shape := shape }

theorem Shape.ofJson?_eq (json : Json) :
    ofJson? json = (json.text? "kind").bind fun kind =>
      if kind = "primitive" then
        ((json.text? "primitive").bind Primitive.ofName?).bind fun primitive =>
          (entriesOfJson? ((json.member? "enum_entries").bind Json.array?)).map
            (.primitive primitive)
      else if kind = "object" then
        (((json.member? "fields").bind Json.array?).bind fieldsOfJson?).map .object
      else if kind = "array" then ((json.member? "element").bind TypeRef.ofJson?).map .array
      else if kind = "map" then ((json.member? "value").bind TypeRef.ofJson?).map .map
      else none := by
  rw [ofJson?, json.bind_items? "fields" fieldsOfJson?, json.bind_part? "element" TypeRef.ofJson?,
    json.bind_part? "value" TypeRef.ofJson?]

theorem fieldsOfJson?_cons (json : Json) (rest : List Json) :
    fieldsOfJson? (json :: rest) = (json.text? "name").bind fun name =>
      ((json.member? "type").bind TypeRef.ofJson?).bind fun type =>
        ((json.member? "required").bind Json.bool?).bind fun required =>
          (fieldsOfJson? rest).map (⟨name, json.text? "description", type, required⟩ :: ·) := by
  rw [fieldsOfJson?, json.bind_part? "type" TypeRef.ofJson?]

/-! ## What is written is read

Members that stand before those of a shape do not disturb as long as they have other names. -/

theorem Primitive.ofName?_name (primitive : Primitive) :
    ofName? primitive.name = some primitive := by
  cases primitive <;> decide

theorem EnumEntry.ofJson?_toJson (entry : EnumEntry) : ofJson? entry.toJson = some entry := by
  rcases entry with ⟨name, value⟩
  cases name <;> rfl

theorem mapM_ofJson?_toJson (entries : List EnumEntry) :
    (entries.map EnumEntry.toJson).mapM EnumEntry.ofJson? = some entries := by
  induction entries with
  | nil => rfl
  | cons entry rest induction =>
      rw [List.map_cons, List.mapM_cons, induction, EnumEntry.ofJson?_toJson]
      rfl

theorem entriesOfJson?_entryMembers (entries : List EnumEntry) :
    entriesOfJson? ((Entries.value? (entryMembers entries) "enum_entries").bind Json.array?) =
      some entries := by
  rw [entryMembers]
  split
  next none => simp [entriesOfJson?, List.isEmpty_iff.mp none]
  next => exact mapM_ofJson?_toJson entries

/-- The names of the members that make up shapes. -/
def Shape.memberNames : List String :=
  ["kind", "primitive", "enum_entries", "fields", "element", "value"]

theorem Shape.value?_members_eq_none {name : String} (other : name ∉ Shape.memberNames)
    (shape : Shape String) : Entries.value? shape.members name = none := by
  simp only [memberNames, List.mem_cons, List.not_mem_nil, or_false, not_or] at other
  rcases other with ⟨kind, primitive, entries, fields, element, value⟩
  cases shape with
  | primitive _ values =>
      rw [members, entryMembers]
      split <;> simp [Entries.value?, Ne.symm kind, Ne.symm primitive, Ne.symm entries]
  | object => simp [members, Entries.value?, Ne.symm kind, Ne.symm fields]
  | array => simp [members, Entries.value?, Ne.symm kind, Ne.symm element]
  | map => simp [members, Entries.value?, Ne.symm kind, Ne.symm value]

mutual

theorem TypeRef.ofJson?_toJson (type : TypeRef String) :
    TypeRef.ofJson? type.toJson = some type := by
  cases type with
  | named name =>
      rw [TypeRef.toJson, TypeRef.ofJson?]
      rfl
  | inline shape =>
      have absent : (Json.object shape.members).member? "$ref" = none :=
        shape.value?_members_eq_none (by decide)
      have inside : Shape.ofJson? (.object shape.members) = some shape :=
        shape.ofJson?_members [] fun _ _ => rfl
      rw [TypeRef.toJson, TypeRef.ofJson?, absent]
      exact congrArg (Option.map TypeRef.inline) inside

theorem Shape.ofJson?_members (shape : Shape String) (extra : Entries Json)
    (apart : ∀ name ∈ Shape.memberNames, Entries.value? extra name = none) :
    Shape.ofJson? (.object (extra ++ shape.members)) = some shape := by
  rw [Shape.ofJson?_eq]
  simp only [Shape.memberNames, List.forall_mem_cons] at apart
  cases shape with
  | primitive primitive entries =>
      simp [Shape.members, Entries.value?_append, Entries.value?, apart, Primitive.ofName?_name,
        entriesOfJson?_entryMembers]
  | object fields =>
      simp [Shape.members, Entries.value?_append, Entries.value?, apart,
        fieldsOfJson?_fieldsToJson fields]
  | array element =>
      simp [Shape.members, Entries.value?_append, Entries.value?, apart, element.ofJson?_toJson]
  | map value =>
      simp [Shape.members, Entries.value?_append, Entries.value?, apart, value.ofJson?_toJson]

theorem fieldsOfJson?_fieldsToJson (fields : List (TypeField String)) :
    fieldsOfJson? (fieldsToJson fields) = some fields := by
  match fields with
  | [] => rw [fieldsToJson, fieldsOfJson?]
  | ⟨name, description, type, required⟩ :: rest =>
      rw [fieldsToJson, fieldsOfJson?_cons, fieldsOfJson?_fieldsToJson rest]
      cases description <;> simp [Json.optionalMember, Entries.value?, type.ofJson?_toJson]

end

theorem TypeReport.ofJson?_toJson (type : TypeReport) : ofJson? type.toJson = some type := by
  rcases type with ⟨name, description, module, shape⟩
  have noDescription : Entries.value? shape.members "description" = none :=
    shape.value?_members_eq_none (by decide)
  have noModule : Entries.value? shape.members "module" = none :=
    shape.value?_members_eq_none (by decide)
  have inside : Shape.ofJson? (toJson ⟨name, description, module, shape⟩) = some shape := by
    apply shape.ofJson?_members
    intro other own
    simp only [Shape.memberNames, List.mem_cons, List.not_mem_nil, or_false] at own
    rcases own with rfl | rfl | rfl | rfl | rfl | rfl <;>
      cases description <;> cases module <;> simp [Json.optionalMember, Entries.value?]
  rw [ofJson?, inside]
  cases description <;> cases module <;>
    simp [toJson, Json.optionalMember, Entries.value?, noDescription, noModule]

/-! ## Equal values

JSON values may be the same data and differ in how they are written. What is read from them then
differs in the values of enumerations and nowhere else. -/

structure EnumEntry.Alike (left right : EnumEntry) : Prop where
  name : left.name = right.name
  value : left.value.Alike right.value

section Alike

variable {ρ σ : Type}

mutual

inductive TypeRef.Alike : TypeRef ρ → TypeRef ρ → Prop where
  | named (target : ρ) : TypeRef.Alike (.named target) (.named target)
  | inline {left right : Shape ρ} (shapes : Shape.Alike left right) :
      TypeRef.Alike (.inline left) (.inline right)

inductive Shape.Alike : Shape ρ → Shape ρ → Prop where
  | primitive (primitive : Primitive) {left right : List EnumEntry}
      (entries : List.Forall₂ EnumEntry.Alike left right) :
      Shape.Alike (.primitive primitive left) (.primitive primitive right)
  | object {left right : List (TypeField ρ)} (fields : FieldsAlike left right) :
      Shape.Alike (.object left) (.object right)
  | array {left right : TypeRef ρ} (elements : TypeRef.Alike left right) :
      Shape.Alike (.array left) (.array right)
  | map {left right : TypeRef ρ} (values : TypeRef.Alike left right) :
      Shape.Alike (.map left) (.map right)

inductive FieldsAlike : List (TypeField ρ) → List (TypeField ρ) → Prop where
  | nil : FieldsAlike [] []
  | cons (name : String) (description : Option String) (required : Bool) {left right : TypeRef ρ}
      {rest others : List (TypeField ρ)} (types : TypeRef.Alike left right)
      (fields : FieldsAlike rest others) :
      FieldsAlike (⟨name, description, left, required⟩ :: rest)
        (⟨name, description, right, required⟩ :: others)

end

mutual

theorem TypeRef.Alike.rename {left right : TypeRef ρ} (alike : left.Alike right)
    (change : ρ → σ) : (left.rename change).Alike (right.rename change) := by
  cases alike with
  | named target =>
      rw [TypeRef.rename]
      exact .named _
  | inline shapes =>
      rw [TypeRef.rename, TypeRef.rename]
      exact .inline (shapes.rename change)

theorem Shape.Alike.rename {left right : Shape ρ} (alike : left.Alike right)
    (change : ρ → σ) : (left.rename change).Alike (right.rename change) := by
  cases alike with
  | primitive primitive entries =>
      rw [Shape.rename, Shape.rename]
      exact .primitive primitive entries
  | object fields =>
      rw [Shape.rename, Shape.rename]
      exact .object (fields.rename change)
  | array elements =>
      rw [Shape.rename, Shape.rename]
      exact .array (elements.rename change)
  | map values =>
      rw [Shape.rename, Shape.rename]
      exact .map (values.rename change)

theorem FieldsAlike.rename {left right : List (TypeField ρ)} (alike : FieldsAlike left right)
    (change : ρ → σ) : FieldsAlike (renameFields change left) (renameFields change right) := by
  cases alike with
  | nil =>
      rw [renameFields]
      exact .nil
  | cons name description required types fields =>
      rw [renameFields, renameFields]
      exact .cons name description required (types.rename change) (fields.rename change)

end

end Alike

theorem EnumEntry.rel_ofJson? {left right : Json} (alike : left.Alike right) :
    Option.Rel EnumEntry.Alike (ofJson? left) (ofJson? right) :=
  rel_map (alike.member? "value") fun _ _ held => ⟨alike.text? "name", held⟩

theorem rel_entriesOfJson? {left right : Option (List Json)}
    (related : Option.Rel (List.Forall₂ Json.Alike) left right) :
    Option.Rel (List.Forall₂ EnumEntry.Alike) (entriesOfJson? left) (entriesOfJson? right) := by
  cases related with
  | none => exact .some .nil
  | some items => exact rel_mapM items fun _ _ => EnumEntry.rel_ofJson?

mutual

theorem TypeRef.rel_ofJson? {left right : Json} (alike : left.Alike right) :
    Option.Rel TypeRef.Alike (TypeRef.ofJson? left) (TypeRef.ofJson? right) := by
  have references := alike.member? "$ref"
  rw [TypeRef.ofJson?, TypeRef.ofJson?]
  generalize left.member? "$ref" = first, right.member? "$ref" = second at references
  cases references with
  | none => exact rel_map (Shape.rel_ofJson? alike) fun _ _ => .inline
  | @some _ name held =>
      dsimp only
      rw [held.string?]
      cases name.string? with
      | none => exact .none
      | some target => exact .some (.named target)
termination_by (sizeOf left, 1)

theorem Shape.rel_ofJson? {left right : Json} (alike : left.Alike right) :
    Option.Rel Shape.Alike (Shape.ofJson? left) (Shape.ofJson? right) := by
  rw [Shape.ofJson?_eq left, Shape.ofJson?_eq right, alike.text? "kind", alike.text? "primitive"]
  cases right.text? "kind" with
  | none => exact .none
  | some kind =>
      rw [Option.bind_some, Option.bind_some]
      split
      next =>
        cases (right.text? "primitive").bind Primitive.ofName? with
        | none => exact .none
        | some primitive =>
            exact rel_map (rel_entriesOfJson? (alike.memberItems? "enum_entries")) fun _ _ =>
              .primitive primitive
      next =>
        split
        next =>
          refine rel_map (rel_bind (alike.memberItems? "fields") ?_) fun _ _ => .object
          intro items others found held
          have smaller := Json.sizeOf_lt_of_memberItems? found
          exact rel_fieldsOfJson? held
        next =>
          split
          next =>
            refine rel_map (rel_bind (alike.member? "element") ?_) fun _ _ => .array
            intro element other found held
            have smaller := Json.sizeOf_lt_of_member? found
            exact TypeRef.rel_ofJson? held
          next =>
            split
            next =>
              refine rel_map (rel_bind (alike.member? "value") ?_) fun _ _ => .map
              intro value other found held
              have smaller := Json.sizeOf_lt_of_member? found
              exact TypeRef.rel_ofJson? held
            next => exact .none
termination_by (sizeOf left, 0)

theorem rel_fieldsOfJson? {left right : List Json} (alike : List.Forall₂ Json.Alike left right) :
    Option.Rel FieldsAlike (fieldsOfJson? left) (fieldsOfJson? right) := by
  cases alike with
  | nil =>
      rw [fieldsOfJson?]
      exact .some .nil
  | @cons json other rest others first later =>
      have types : Option.Rel TypeRef.Alike ((json.member? "type").bind TypeRef.ofJson?)
          ((other.member? "type").bind TypeRef.ofJson?) := by
        refine rel_bind (first.member? "type") fun part _ found held => ?_
        have smaller := Json.sizeOf_lt_of_member? found
        exact TypeRef.rel_ofJson? held
      have fields := rel_fieldsOfJson? later
      rw [fieldsOfJson?_cons, fieldsOfJson?_cons, first.text? "name", first.text? "description",
        first.bind_member?_eq Json.Alike.bool? "required"]
      cases other.text? "name" with
      | none => exact .none
      | some name =>
          rw [Option.bind_some, Option.bind_some]
          refine rel_bind types fun type another _ alike => ?_
          cases (other.member? "required").bind Json.bool? with
          | none => exact .none
          | some required => exact rel_map fields fun _ _ => .cons _ _ _ alike
termination_by (sizeOf left, 0)

end

/-! ## Types of a registry -/

namespace Registry

variable (registry : Registry)

/-- The type that was registered under a name. -/
def idOf (name : String) : TypeId := registry.names.idxOf name

def shapeToJson (shape : Shape TypeId) : Json := .object (shape.rename registry.nameOf).members

def typeToJson (type : TypeRef TypeId) : Json := (type.rename registry.nameOf).toJson

def fieldsToJson (fields : List (TypeField TypeId)) : Json :=
  .array (ApiGraph.fieldsToJson (renameFields registry.nameOf fields))

def shapeOfJson? (json : Json) : Option (Shape TypeId) :=
  (Shape.ofJson? json).map (·.rename registry.idOf)

def typeOfJson? (json : Json) : Option (TypeRef TypeId) :=
  (TypeRef.ofJson? json).map (·.rename registry.idOf)

def fieldsOfJson? (json : Json) : Option (List (TypeField TypeId)) :=
  (json.array?.bind ApiGraph.fieldsOfJson?).map (renameFields registry.idOf)

/-- The shape of the type that an entry of a report is about. -/
def shapeOfReport? (json : Json) : Option (Shape TypeId) :=
  (TypeReport.ofJson? json).map fun type => type.shape.rename registry.idOf

variable {registry} {left right : Json}

theorem idOf_nameOf (distinct : registry.names.Nodup) {id : TypeId}
    (registered : id < registry.size) : registry.idOf (registry.nameOf id) = id := by
  have inside : id < registry.names.length := by rwa [names, List.length_map]
  have found : registry.node? id = some registry.nodes[id] := List.getElem?_eq_getElem registered
  have name : registry.nameOf id = registry.names[id] := by
    rw [nameOf_eq found]
    exact (List.getElem_map TypeNode.name).symm
  rw [idOf, name, distinct.idxOf_getElem id inside]

section Distinct

variable (distinct : registry.names.Nodup)

include distinct

theorem rename_idOf_rename {shape : Shape TypeId} (registers : registry.Registers shape.targets) :
    (shape.rename registry.nameOf).rename registry.idOf = shape := by
  rw [Shape.rename_rename, shape.rename_congr, shape.rename_self]
  intro target member
  exact idOf_nameOf distinct (registers target member)

theorem shapeOfJson?_shapeToJson {shape : Shape TypeId}
    (registers : registry.Registers shape.targets) :
    registry.shapeOfJson? (registry.shapeToJson shape) = some shape := by
  have read := (shape.rename registry.nameOf).ofJson?_members [] fun _ _ => rfl
  rw [List.nil_append] at read
  rw [shapeOfJson?, shapeToJson, read, Option.map_some, rename_idOf_rename distinct registers]

theorem typeOfJson?_typeToJson {type : TypeRef TypeId}
    (registers : registry.Registers type.targets) :
    registry.typeOfJson? (registry.typeToJson type) = some type := by
  have back : (type.rename registry.nameOf).rename registry.idOf = type := by
    rw [TypeRef.rename_rename, type.rename_congr, type.rename_self]
    intro target member
    exact idOf_nameOf distinct (registers target member)
  rw [typeOfJson?, typeToJson, TypeRef.ofJson?_toJson, Option.map_some, back]

theorem fieldsOfJson?_fieldsToJson {fields : List (TypeField TypeId)}
    (registers : registry.Registers (fieldTargets fields)) :
    registry.fieldsOfJson? (registry.fieldsToJson fields) = some fields := by
  have back : renameFields registry.idOf (renameFields registry.nameOf fields) = fields := by
    rw [renameFields_rename, renameFields_congr fields, renameFields_self]
    intro target member
    exact idOf_nameOf distinct (registers target member)
  rw [fieldsOfJson?, fieldsToJson, Json.array?_array, Option.bind_some,
    ApiGraph.fieldsOfJson?_fieldsToJson, Option.map_some, back]

end Distinct

theorem rel_shapeOfJson? (alike : left.Alike right) :
    Option.Rel Shape.Alike (registry.shapeOfJson? left) (registry.shapeOfJson? right) :=
  rel_map (Shape.rel_ofJson? alike) fun _ _ shapes => shapes.rename _

theorem rel_typeOfJson? (alike : left.Alike right) :
    Option.Rel TypeRef.Alike (registry.typeOfJson? left) (registry.typeOfJson? right) :=
  rel_map (TypeRef.rel_ofJson? alike) fun _ _ types => types.rename _

theorem rel_fieldsOfJson? (alike : left.Alike right) :
    Option.Rel FieldsAlike (registry.fieldsOfJson? left) (registry.fieldsOfJson? right) := by
  have read : Option.Rel FieldsAlike (left.array?.bind ApiGraph.fieldsOfJson?)
      (right.array?.bind ApiGraph.fieldsOfJson?) :=
    rel_bind alike.array? fun _ _ _ items => ApiGraph.rel_fieldsOfJson? items
  exact rel_map read fun _ _ fields => fields.rename _

theorem rel_shapeOfReport? (alike : left.Alike right) :
    Option.Rel Shape.Alike (registry.shapeOfReport? left) (registry.shapeOfReport? right) := by
  rw [shapeOfReport?, shapeOfReport?, TypeReport.ofJson?, TypeReport.ofJson?, alike.text? "name"]
  cases right.text? "name" with
  | none => exact .none
  | some name =>
      rw [Option.bind_some, Option.bind_some, Option.map_map, Option.map_map]
      exact rel_map (Shape.rel_ofJson? alike) fun _ _ shapes => shapes.rename _

end Registry

/-- Values that can be read back differ in what is written, and so do values that are not alike. -/
theorem tells_apart {α : Type} {Same : α → α → Prop} {write : α → Json} {read : Json → Option α}
    (respects : ∀ {left right : Json}, left.Alike right → Option.Rel Same (read left) (read right))
    {first second : α} (firstRead : read (write first) = some first)
    (secondRead : read (write second) = some second) :
    (write first = write second → first = second) ∧
      ((write first).Alike (write second) → Same first second) := by
  constructor
  · intro equal
    rw [equal, secondRead] at firstRead
    exact (Option.some.inj firstRead).symm
  · intro alike
    have related := respects alike
    rw [firstRead, secondRead] at related
    cases related with
    | some same => exact same

/-- A reference has a member that no inline type has. -/
theorem not_alike_named_inline (name : String) (shape : Shape String) :
    ¬(TypeRef.toJson (.named name)).Alike (TypeRef.toJson (.inline shape)) := by
  intro alike
  have related := TypeRef.rel_ofJson? alike
  rw [TypeRef.ofJson?_toJson, TypeRef.ofJson?_toJson] at related
  cases related with
  | some same => cases same

/-- A report loses nothing of the types of a registry whose types have names of their own. Shapes,
types and lists of fields that refer to registered types are the same if they are written as the same
JSON value; and if their values are only the same data, they differ at most in how the values of
enumerations are written. A reference and an inline type are never written as the same data. From the
entry of a type in a report its shape can be read back, and from data that equals the entry the shape
but for how the values of enumerations are written. -/
theorem report_decodes {registry : Registry} (distinct : registry.names.Nodup) :
    (∀ shape other : Shape TypeId, registry.Registers shape.targets →
      registry.Registers other.targets →
        (registry.shapeToJson shape = registry.shapeToJson other → shape = other) ∧
          ((registry.shapeToJson shape).Alike (registry.shapeToJson other) → shape.Alike other)) ∧
      (∀ type other : TypeRef TypeId, registry.Registers type.targets →
        registry.Registers other.targets →
          (registry.typeToJson type = registry.typeToJson other → type = other) ∧
            ((registry.typeToJson type).Alike (registry.typeToJson other) → type.Alike other)) ∧
      (∀ fields others : List (TypeField TypeId), registry.Registers (fieldTargets fields) →
        registry.Registers (fieldTargets others) →
          (registry.fieldsToJson fields = registry.fieldsToJson others → fields = others) ∧
            ((registry.fieldsToJson fields).Alike (registry.fieldsToJson others) →
              FieldsAlike fields others)) ∧
      (∀ target shape,
        ¬(registry.typeToJson (.named target)).Alike (registry.typeToJson (.inline shape))) ∧
      ∀ result : Build, result.registry = registry →
        ∀ node : TypeNode, registry.Registers node.shape.targets →
          registry.shapeOfReport? (result.reportType node).toJson = some node.shape ∧
            ∀ json : Json, json.Alike (result.reportType node).toJson →
              ∃ shape, registry.shapeOfReport? json = some shape ∧ shape.Alike node.shape := by
  refine ⟨?_, ?_, ?_, ?_, ?_⟩
  · intro shape other registers registered
    exact tells_apart Registry.rel_shapeOfJson?
      (Registry.shapeOfJson?_shapeToJson distinct registers)
      (Registry.shapeOfJson?_shapeToJson distinct registered)
  · intro type other registers registered
    exact tells_apart Registry.rel_typeOfJson? (Registry.typeOfJson?_typeToJson distinct registers)
      (Registry.typeOfJson?_typeToJson distinct registered)
  · intro fields others registers registered
    exact tells_apart Registry.rel_fieldsOfJson?
      (Registry.fieldsOfJson?_fieldsToJson distinct registers)
      (Registry.fieldsOfJson?_fieldsToJson distinct registered)
  · intro target shape
    rw [Registry.typeToJson, Registry.typeToJson, TypeRef.rename, TypeRef.rename]
    exact not_alike_named_inline _ _
  · intro result same node registers
    have entry : registry.shapeOfReport? (result.reportType node).toJson = some node.shape := by
      rw [Registry.shapeOfReport?, TypeReport.ofJson?_toJson, Option.map_some, Build.reportType,
        same, Registry.rename_idOf_rename distinct registers]
    refine ⟨entry, ?_⟩
    intro json alike
    have related : Option.Rel Shape.Alike (registry.shapeOfReport? json)
        (registry.shapeOfReport? (result.reportType node).toJson) := Registry.rel_shapeOfReport? alike
    rw [entry] at related
    exact exists_of_rel_some related

/-- Values of an enumeration that look like a reference and like the shape of a list. -/
def Registry.lookalikes : Registry where
  nodes := [
    { name := "Pet"
      shape := .object [⟨"kind", none, .inline (.primitive .unknown [
        { value := .object [("$ref", .string "Pet")] },
        { name := some "list"
          value := .object [("kind", .string "array"), ("element", .null)] }]), true⟩] },
    { name := "Herd", shape := .array (.named 0) }]

theorem report_decodes_lookalikes :
    Registry.lookalikes.names.Nodup ∧ Registry.lookalikes.IsClosed ∧
      ∀ result : Build, result.registry = .lookalikes → ∀ node ∈ Registry.lookalikes.nodes,
        Registry.lookalikes.shapeOfReport? (result.reportType node).toJson = some node.shape := by
  have distinct : Registry.lookalikes.names.Nodup := by decide
  have closed : Registry.lookalikes.IsClosed := by
    unfold Registry.IsClosed
    decide
  refine ⟨distinct, closed, ?_⟩
  intro result same node member
  exact ((report_decodes distinct).2.2.2.2 result same node (closed node member)).1

end ApiGraph
