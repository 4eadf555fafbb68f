import ApiGraph.Proofs.Conversion.Accesses
import ApiGraph.Proofs.Redirection.Operation
import ApiGraph.Proofs.Sorting

namespace ApiGraph

/-! # The order of fields

A hint moves the properties that it names to the front. It may name a property twice, and it may name
what is no property. Whatever it says, every property becomes one field, and the fields are the same
without the hint. -/

namespace Schema

/-! ## Names in the order of fields -/

/-- The names of the hint. A definition without a hint is ordered as with one that names nothing. -/
def hint (schema : Schema) : List String := schema.propertyOrder.getD []

theorem names_hinted (properties : Entries SchemaSlot) (seen hint : List String) :
    Entries.names (hinted properties seen hint) =
      (hint.filter fun name => name ∈ Entries.names properties ∧ name ∉ seen).eraseDups := by
  induction hint generalizing seen with
  | nil => rfl
  | cons name hint induction =>
      rw [hinted]
      cases declared : Entries.value? properties name with
      | none =>
          have absent : name ∉ Entries.names properties := by
            simp [← Entries.value?_isSome_iff, declared]
          rw [List.filter_cons_of_neg (by simp [absent])]
          exact induction seen
      | some slot =>
          have known := Entries.mem_names_of_value?_eq_some declared
          dsimp only
          by_cases before : name ∈ seen
          · rw [if_pos (List.contains_iff_mem.mpr before), List.filter_cons_of_neg (by simp [before])]
            exact induction seen
          · -- A name that is kept is left out from then on, by `seen` here and by `eraseDups` there.
            rw [if_neg (mt List.contains_iff_mem.mp before),
              List.filter_cons_of_pos (by simp [known, before]), List.eraseDups_cons,
              List.filter_filter, Entries.names, List.map_cons, ← Entries.names,
              induction (name :: seen)]
            congr 2
            apply List.filter_congr
            intro other _
            rw [Bool.eq_iff_iff]
            simp [and_left_comm]

theorem names_unhinted (properties : Entries SchemaSlot) (hint : List String) :
    Entries.names (unhinted properties hint) =
      (Entries.names properties).filter (· ∉ hint) := by
  rw [Entries.names, Entries.names, unhinted, List.filter_map]
  congr 1
  apply List.filter_congr
  intro entry _
  simp

variable {schema : Schema}

theorem names_orderedProperties : Entries.names schema.orderedProperties =
    (schema.hint.filter (· ∈ Entries.names schema.properties)).eraseDups ++
      (Entries.names schema.properties).filter (· ∉ schema.hint) := by
  unfold orderedProperties hint
  cases schema.propertyOrder with
  | none => simp
  | some hint =>
      dsimp only [Option.getD_some]
      rw [Entries.names, List.map_append, ← Entries.names, ← Entries.names, names_hinted,
        names_unhinted]
      simp

variable (distinct : (Entries.names schema.properties).Nodup)

include distinct

theorem nodup_names_orderedProperties : (Entries.names schema.orderedProperties).Nodup := by
  rw [names_orderedProperties, List.nodup_append]
  refine ⟨nodup_eraseDups _, distinct.filter _, ?_⟩
  intro name first other second same
  rw [List.mem_eraseDups, List.mem_filter] at first
  rw [← same, List.mem_filter] at second
  simp [first.1] at second

theorem orderedProperties_perm : schema.orderedProperties.Perm schema.properties := by
  have ordered := (nodup_names_orderedProperties distinct).of_map
  refine (List.perm_ext_iff_of_nodup ordered distinct.of_map).mpr ?_
  intro entry
  exact mem_orderedProperties_iff distinct

end Schema

/-! ## Fields of what is walked -/

section Walks

variable {document : Document} {schema : Schema} {location : String} {progress after : Progress}
  {shape : Shape TypeId}

theorem Document.Occurs.exists_fields (isObject : schema.IsObject)
    (occurs : document.Occurs ⟨.walk schema location, progress⟩)
    (made : (Call.walk schema location).perform document progress = (.ok shape, after)) :
    ∃ fields, shape = .object fields ∧
      List.Forall₂ (document.BecomesField schema) schema.orderedProperties
        (renameFields after.registry.nameOf fields) := by
  have held := Call.holdsShape_walk occurs.faithful (congrArg Prod.fst made)
  rw [made] at held
  rcases (Document.translate_eq_some_iff_of_isObject isObject).mp held.2 with
    ⟨named, equal, become⟩
  cases shape with
  | object fields =>
      rw [Shape.rename] at equal
      cases equal
      exact ⟨fields, rfl, become⟩
  | primitive | array | map =>
      rw [Shape.rename] at equal
      cases equal

end Walks

/-! ## Other hints -/

/-- The same components are declared, and the definitions among them differ in their hints only. -/
def Document.SameButHints (document other : Document) : Prop :=
  Referable.Agree (fun schema other => ∃ hint, other = { schema with propertyOrder := hint })
    document.components.schemas other.components.schemas

namespace Document.SameButHints

variable {document other : Document}

theorem refl (document : Document) : document.SameButHints document := by
  intro name
  apply rel_refl
  apply Referable.Rel.refl
  intro schema
  exact ⟨schema.propertyOrder, by cases schema; rfl⟩

variable (same : document.SameButHints other)

include same

theorem noted? (path : String) : other.noted? path = document.noted? path := by
  apply noted?_eq_of_agree same
  intro schema other differs
  rcases differs with ⟨hint, rfl⟩
  rfl

theorem sameMeaning (slot : SchemaSlot) : document.SameMeaning other slot slot := by
  have everywhere {path moved : String} (equal : path = moved) :
      other.noted? moved = document.noted? path := by rw [equal, same.noted?]
  exact sameMeaning_of_redirects everywhere (Redirects.refl (fun _ => rfl) slot)

/-- A property becomes the same field whatever the hint of its definition says. -/
theorem becomesField {schema : Schema} {hint : Option (List String)}
    {property : String × SchemaSlot} {field : TypeField String}
    (becomes : other.BecomesField { schema with propertyOrder := hint } property field) :
    document.BecomesField schema property field where
  name := becomes.name
  description := becomes.description.trans (same.sameMeaning property.2).description
  type := (same.sameMeaning property.2).type.symm.trans becomes.type
  required := becomes.required

end Document.SameButHints

/-- A definition that is walked as an object, whatever was converted before, has one field for each
property: first those that its hint names, each where it is named first, and then the others as they
are declared. A field is made of its own property. Another hint, here or anywhere else, leads to the
same fields in another order. -/
theorem walk_permutes_properties {document : Document} {schema : Schema} {location : String}
    {progress after : Progress} {shape : Shape TypeId} (isObject : schema.IsObject)
    (distinct : (Entries.names schema.properties).Nodup)
    (occurs : document.Occurs ⟨.walk schema location, progress⟩)
    (made : (Call.walk schema location).perform document progress = (.ok shape, after)) :
    ∃ fields, shape = .object fields ∧
      fields.map Field.name =
        (schema.hint.filter (· ∈ Entries.names schema.properties)).eraseDups ++
          (Entries.names schema.properties).filter (· ∉ schema.hint) ∧
      (fields.map Field.name).Perm (Entries.names schema.properties) ∧
      (∀ field ∈ fields, ∃ slot, (field.name, slot) ∈ schema.properties ∧
        document.translateSlot slot = some (field.type.rename after.registry.nameOf) ∧
        (field.required = true ↔ field.name ∈ schema.required)) ∧
      ∀ other hint place start result otherShape, document.SameButHints other →
        other.Occurs ⟨.walk { schema with propertyOrder := hint } place, start⟩ →
        (Call.walk { schema with propertyOrder := hint } place).perform other start =
          (.ok otherShape, result) →
        ∃ others, otherShape = .object others ∧
          (renameFields after.registry.nameOf fields).Perm
            (renameFields result.registry.nameOf others) := by
  rcases occurs.exists_fields isObject made with ⟨fields, shaped, become⟩
  have paired : List.Forall₂ (fun property field =>
      document.BecomesField schema property (TypeField.rename after.registry.nameOf field))
        schema.orderedProperties fields := by
    rwa [renameFields_eq_map, List.forall₂_map_right_iff] at become
  have named : fields.map Field.name = Entries.names schema.orderedProperties := by
    rw [Entries.names, ← List.forall₂_eq_eq_eq, List.forall₂_map_left_iff,
      List.forall₂_map_right_iff]
    exact .flip (paired.imp fun _ _ becomes => becomes.name)
  refine ⟨fields, shaped, ?_, ?_, ?_, ?_⟩
  · rw [named, Schema.names_orderedProperties]
  · rw [named]
    exact (Schema.orderedProperties_perm distinct).map _
  · intro field member
    rcases exists_of_mem_right paired member with ⟨⟨name, slot⟩, inside, becomes⟩
    have same : field.name = name := becomes.name
    have required : field.required = decide (name ∈ schema.required) := becomes.required
    refine ⟨slot, ?_, becomes.type, ?_⟩
    · rw [same]
      exact Schema.mem_of_mem_orderedProperties inside
    · rw [required, same, decide_eq_true_eq]
  · intro other hint place start result otherShape same alsoOccurs alsoMade
    have alsoObject : Schema.IsObject { schema with propertyOrder := hint } := isObject
    rcases alsoOccurs.exists_fields alsoObject alsoMade with ⟨others, alsoShaped, alsoBecome⟩
    refine ⟨others, alsoShaped, ?_⟩
    have alsoPerm : (Schema.orderedProperties { schema with propertyOrder := hint }).Perm
        schema.properties := Schema.orderedProperties_perm distinct
    exact List.rel_perm_imp (Document.rightUnique_becomesField document schema) become
      (alsoBecome.imp fun _ _ => same.becomesField)
      ((Schema.orderedProperties_perm distinct).trans alsoPerm.symm)

/-- The hint names a property twice, and it names what is no property. -/
def Schema.visit : Schema where
  properties := [
    ("pet", .reference "#/components/schemas/Pet"),
    ("cost", .inline { type := some (.single .number) }),
    ("day", .inline { type := some (.single .string) })]
  required := ["cost"]
  propertyOrder := some ["day", "room", "cost", "day"]

/-- A converter that was asked for owners first has given other numbers to the types. -/
def Document.petShopOwners : Progress where
  registry := (petShop.serveAll {} [.call (.named "Owner")]).registry

theorem walk_permutes_properties_visit :
    ∃ fields after others result,
      (Call.walk .visit "visit").perform .petShop {} = (.ok (.object fields), after) ∧
      (Call.walk { Schema.visit with propertyOrder := none } "visit").perform .petShop
        Document.petShopOwners = (.ok (.object others), result) ∧
      fields.map Field.name = ["day", "cost", "pet"] ∧
      (renameFields after.registry.nameOf fields).Perm
        (renameFields result.registry.nameOf others) := by
  have walked : ((Call.walk .visit "visit").perform .petShop {}).1.toBool = true := by cbv
  have rewalked : ((Call.walk { Schema.visit with propertyOrder := none } "visit").perform
      .petShop Document.petShopOwners).1.toBool = true := by cbv
  rcases made : (Call.walk .visit "visit").perform .petShop {} with ⟨outcome, after⟩
  rcases remade : (Call.walk { Schema.visit with propertyOrder := none } "visit").perform
    .petShop Document.petShopOwners with ⟨reoutcome, result⟩
  rw [made] at walked
  rw [remade] at rewalked
  cases outcome with
  | error error => cases walked
  | ok shape =>
      cases reoutcome with
      | error error => cases rewalked
      | ok other =>
          have isObject : Schema.visit.IsObject := ⟨rfl, .inr ⟨rfl, List.cons_ne_nil _ _⟩⟩
          have distinct : (Entries.names Schema.visit.properties).Nodup := by decide
          rcases walk_permutes_properties isObject distinct (.request [] {} _) made with
            ⟨fields, rfl, names, _, _, rehinted⟩
          rcases rehinted .petShop none "visit" Document.petShopOwners result other (.refl _)
            (.request _ {} _) remade with ⟨others, rfl, perm⟩
          exact ⟨fields, after, others, result, rfl, rfl, names, perm⟩

end ApiGraph
