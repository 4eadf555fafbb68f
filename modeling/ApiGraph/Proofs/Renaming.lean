import ApiGraph.Proofs.Types

namespace ApiGraph

/-! # Renaming

A renaming changes what stands for the named types and nothing else. Renamings compose, and one that
keeps apart what two types refer to keeps the types apart. -/

variable {ρ σ τ : Type} (change : ρ → σ) (again : σ → τ)

/-- A field under other names. -/
def TypeField.rename (field : TypeField ρ) : TypeField σ :=
  { name := field.name
    description := field.description
    type := field.type.rename change
    required := field.required }

theorem renameFields_eq_map (fields : List (TypeField ρ)) :
    renameFields change fields = fields.map (TypeField.rename change) := by
  induction fields with
  | nil => rw [renameFields, List.map_nil]
  | cons field rest induction =>
      rcases field with ⟨name, description, type, required⟩
      rw [renameFields, List.map_cons, induction]
      rfl

/-! ## Composition -/

mutual

theorem TypeRef.rename_rename (type : TypeRef ρ) :
    (type.rename change).rename again = type.rename fun target => again (change target) := by
  cases type with
  | named target => simp only [TypeRef.rename]
  | inline shape => simp only [TypeRef.rename, shape.rename_rename]

theorem Shape.rename_rename (shape : Shape ρ) :
    (shape.rename change).rename again = shape.rename fun target => again (change target) := by
  cases shape with
  | primitive primitive entries => simp only [Shape.rename]
  | object fields => simp only [Shape.rename, renameFields_rename fields]
  | array element => simp only [Shape.rename, element.rename_rename]
  | map value => simp only [Shape.rename, value.rename_rename]

theorem renameFields_rename (fields : List (TypeField ρ)) :
    renameFields again (renameFields change fields) =
      renameFields (fun target => again (change target)) fields := by
  match fields with
  | [] => simp only [renameFields]
  | ⟨name, description, type, required⟩ :: rest =>
      simp only [renameFields, type.rename_rename, renameFields_rename rest]

end

mutual

theorem TypeRef.rename_self (type : TypeRef ρ) : type.rename (fun target => target) = type := by
  cases type with
  | named target => simp only [TypeRef.rename]
  | inline shape => simp only [TypeRef.rename, shape.rename_self]

theorem Shape.rename_self (shape : Shape ρ) : shape.rename (fun target => target) = shape := by
  cases shape with
  | primitive primitive entries => simp only [Shape.rename]
  | object fields => simp only [Shape.rename, renameFields_self fields]
  | array element => simp only [Shape.rename, element.rename_self]
  | map value => simp only [Shape.rename, value.rename_self]

theorem renameFields_self (fields : List (TypeField ρ)) :
    renameFields (fun target => target) fields = fields := by
  match fields with
  | [] => simp only [renameFields]
  | ⟨name, description, type, required⟩ :: rest =>
      simp only [renameFields, type.rename_self, renameFields_self rest]

end

/-! ## Parts -/

mutual

theorem TypeRef.targets_rename (type : TypeRef ρ) :
    (type.rename change).targets = type.targets.map change := by
  cases type with
  | named target => simp only [TypeRef.rename, TypeRef.targets, List.map_singleton]
  | inline shape => simp only [TypeRef.rename, TypeRef.targets, shape.targets_rename]

theorem Shape.targets_rename (shape : Shape ρ) :
    (shape.rename change).targets = shape.targets.map change := by
  cases shape with
  | primitive primitive entries => simp only [Shape.rename, Shape.targets, List.map_nil]
  | object fields => simp only [Shape.rename, Shape.targets, fieldTargets_rename fields]
  | array element => simp only [Shape.rename, Shape.targets, element.targets_rename]
  | map value => simp only [Shape.rename, Shape.targets, value.targets_rename]

theorem fieldTargets_rename (fields : List (TypeField ρ)) :
    fieldTargets (renameFields change fields) = (fieldTargets fields).map change := by
  match fields with
  | [] => simp only [renameFields, fieldTargets, List.map_nil]
  | ⟨name, description, type, required⟩ :: rest =>
      simp only [renameFields, fieldTargets, type.targets_rename, fieldTargets_rename rest,
        List.map_append]

end

mutual

@[simp] theorem TypeRef.inlineCount_rename (type : TypeRef ρ) :
    (type.rename change).inlineCount = type.inlineCount := by
  cases type with
  | named target => simp only [TypeRef.rename, TypeRef.inlineCount]
  | inline shape => simp only [TypeRef.rename, TypeRef.inlineCount, shape.inlineCount_rename]

@[simp] theorem Shape.inlineCount_rename (shape : Shape ρ) :
    (shape.rename change).inlineCount = shape.inlineCount := by
  cases shape with
  | primitive primitive entries => simp only [Shape.rename, Shape.inlineCount]
  | object fields => simp only [Shape.rename, Shape.inlineCount, fieldInlineCount_rename fields]
  | array element => simp only [Shape.rename, Shape.inlineCount, element.inlineCount_rename]
  | map value => simp only [Shape.rename, Shape.inlineCount, value.inlineCount_rename]

@[simp] theorem fieldInlineCount_rename (fields : List (TypeField ρ)) :
    fieldInlineCount (renameFields change fields) = fieldInlineCount fields := by
  match fields with
  | [] => simp only [renameFields, fieldInlineCount]
  | ⟨name, description, type, required⟩ :: rest =>
      simp only [renameFields, fieldInlineCount, type.inlineCount_rename,
        fieldInlineCount_rename rest]

end

namespace Shape

variable (shape : Shape ρ)

theorem fields_rename : (shape.rename change).fields = shape.fields.map (.rename change) := by
  cases shape <;> simp only [Shape.rename, fields, renameFields_eq_map, List.map_nil]

theorem field?_rename (name : String) :
    (shape.rename change).field? name = (shape.field? name).map (.rename change) := by
  rw [field?, field?, fields_rename, List.find?_map]
  rfl

theorem element?_rename : (shape.rename change).element? = shape.element?.map (.rename change) := by
  cases shape <;> simp only [Shape.rename, element?, Option.map_none, Option.map_some]

theorem children_rename : (shape.rename change).children = shape.children.map (.rename change) := by
  cases shape with
  | object fields =>
      simp only [Shape.rename, children, renameFields_eq_map, List.map_map]
      rfl
  | _ => simp only [Shape.rename, children, List.map_nil, List.map_singleton]

end Shape

/-! ## Types that differ -/

mutual

theorem TypeRef.rename_injective {type other : TypeRef ρ}
    (apart : ∀ left ∈ type.targets, ∀ right ∈ other.targets,
      change left = change right → left = right)
    (same : type.rename change = other.rename change) : type = other := by
  cases type with
  | named target =>
      cases other with
      | named target' =>
          simp only [TypeRef.rename, TypeRef.named.injEq] at same
          rw [apart target (by simp [TypeRef.targets]) target' (by simp [TypeRef.targets]) same]
      | inline shape => simp only [TypeRef.rename, reduceCtorEq] at same
  | inline shape =>
      cases other with
      | named target => simp only [TypeRef.rename, reduceCtorEq] at same
      | inline shape' =>
          simp only [TypeRef.rename, TypeRef.inline.injEq] at same
          simp only [TypeRef.targets] at apart
          rw [Shape.rename_injective apart same]

theorem Shape.rename_injective {shape other : Shape ρ}
    (apart : ∀ left ∈ shape.targets, ∀ right ∈ other.targets,
      change left = change right → left = right)
    (same : shape.rename change = other.rename change) : shape = other := by
  cases shape <;> cases other <;>
    simp only [Shape.rename, reduceCtorEq, Shape.primitive.injEq, Shape.object.injEq,
      Shape.array.injEq, Shape.map.injEq] at same <;>
    simp only [Shape.targets] at apart
  next => rw [same.1, same.2]
  next => rw [renameFields_injective apart same]
  next => rw [TypeRef.rename_injective apart same]
  next => rw [TypeRef.rename_injective apart same]

theorem renameFields_injective {fields others : List (TypeField ρ)}
    (apart : ∀ left ∈ fieldTargets fields, ∀ right ∈ fieldTargets others,
      change left = change right → left = right)
    (same : renameFields change fields = renameFields change others) : fields = others := by
  match fields, others with
  | [], [] => rfl
  | [], ⟨_, _, _, _⟩ :: _ => simp only [renameFields, reduceCtorEq] at same
  | ⟨_, _, _, _⟩ :: _, [] => simp only [renameFields, reduceCtorEq] at same
  | ⟨name, description, type, required⟩ :: rest, ⟨name', description', type', required'⟩ :: rest' =>
      simp only [renameFields, List.cons.injEq, Field.mk.injEq] at same
      rcases same with ⟨⟨rfl, rfl, types, rfl⟩, rests⟩
      simp only [fieldTargets, List.mem_append] at apart
      have here : type = type' := by
        apply TypeRef.rename_injective _ types
        intro left member right inside
        exact apart left (.inl member) right (.inl inside)
      have there : rest = rest' := by
        apply renameFields_injective _ rests
        intro left member right inside
        exact apart left (.inr member) right (.inr inside)
      rw [here, there]

end

end ApiGraph
