import ApiGraph.Types

namespace ApiGraph

/-! # Named types inside a type -/

variable {ρ σ : Type} {left right : ρ → σ}

/-! ## Where named types stand

A type refers to what stands at the end of a path through inline types: through the fields of an
object, the elements of an array and the values of a map. -/

inductive TypeRef.Mentions : TypeRef ρ → ρ → Prop where
  | itself (target : ρ) : Mentions (.named target) target
  | inside {shape : Shape ρ} {child : TypeRef ρ} {target : ρ} (member : child ∈ shape.children)
      (mentions : Mentions child target) : Mentions (.inline shape) target

theorem mem_fieldTargets {fields : List (TypeField ρ)} {target : ρ} :
    target ∈ fieldTargets fields ↔ ∃ field ∈ fields, target ∈ field.type.targets := by
  induction fields with
  | nil => simp [fieldTargets]
  | cons field rest induction =>
      rcases field with ⟨name, description, type, required⟩
      simp [fieldTargets, induction]

theorem Shape.mem_targets {shape : Shape ρ} {target : ρ} :
    target ∈ shape.targets ↔ ∃ child ∈ shape.children, target ∈ child.targets := by
  cases shape with
  | primitive primitive entries => simp [Shape.targets, Shape.children]
  | object fields =>
      rw [Shape.targets, mem_fieldTargets, Shape.children]
      constructor
      · intro holds
        rcases holds with ⟨field, inside, member⟩
        exact ⟨field.type, List.mem_map_of_mem inside, member⟩
      · intro holds
        rcases holds with ⟨child, inside, member⟩
        rcases List.mem_map.mp inside with ⟨field, held, rfl⟩
        exact ⟨field, held, member⟩
  | array element => simp [Shape.targets, Shape.children]
  | map value => simp [Shape.targets, Shape.children]

theorem TypeRef.Mentions.mem_targets {type : TypeRef ρ} {target : ρ}
    (mentions : type.Mentions target) : target ∈ type.targets := by
  induction mentions with
  | itself target => simp [TypeRef.targets]
  | inside member _ induction =>
      rw [TypeRef.targets]
      exact Shape.mem_targets.mpr ⟨_, member, induction⟩

mutual

theorem TypeRef.mentions_of_mem_targets (type : TypeRef ρ) {target : ρ}
    (member : target ∈ type.targets) : type.Mentions target := by
  cases type with
  | named other =>
      rw [TypeRef.targets, List.mem_singleton] at member
      rw [member]
      exact .itself other
  | inline shape =>
      rw [TypeRef.targets] at member
      rcases shape.child_mentions_of_mem_targets member with ⟨child, inside, mentions⟩
      exact .inside inside mentions

theorem Shape.child_mentions_of_mem_targets (shape : Shape ρ) {target : ρ}
    (member : target ∈ shape.targets) : ∃ child ∈ shape.children, child.Mentions target := by
  cases shape with
  | primitive primitive entries => cases member
  | object fields =>
      rw [Shape.targets] at member
      rcases field_mentions_of_mem_targets fields member with ⟨field, inside, mentions⟩
      exact ⟨field.type, List.mem_map_of_mem inside, mentions⟩
  | array element =>
      rw [Shape.targets] at member
      exact ⟨element, List.mem_singleton_self element, element.mentions_of_mem_targets member⟩
  | map value =>
      rw [Shape.targets] at member
      exact ⟨value, List.mem_singleton_self value, value.mentions_of_mem_targets member⟩

theorem field_mentions_of_mem_targets (fields : List (TypeField ρ)) {target : ρ}
    (member : target ∈ fieldTargets fields) : ∃ field ∈ fields, field.type.Mentions target := by
  match fields with
  | [] => cases member
  | ⟨name, description, type, required⟩ :: rest =>
      rw [fieldTargets] at member
      rcases List.mem_append.mp member with member | member
      · exact ⟨_, List.mem_cons_self, type.mentions_of_mem_targets member⟩
      · rcases field_mentions_of_mem_targets rest member with ⟨field, inside, mentions⟩
        exact ⟨field, List.mem_cons_of_mem _ inside, mentions⟩

end

theorem TypeRef.mem_targets_iff {type : TypeRef ρ} {target : ρ} :
    target ∈ type.targets ↔ type.Mentions target :=
  ⟨type.mentions_of_mem_targets, TypeRef.Mentions.mem_targets⟩

/-! ## Other names

What a type looks like under other names depends only on the named types that it refers to. -/

mutual

theorem TypeRef.rename_congr (type : TypeRef ρ)
    (agree : ∀ target ∈ type.targets, left target = right target) :
    type.rename left = type.rename right := by
  cases type with
  | named target =>
      rw [TypeRef.rename, TypeRef.rename, agree target (by simp [TypeRef.targets])]
  | inline shape =>
      rw [TypeRef.rename, TypeRef.rename, shape.rename_congr]
      simpa only [TypeRef.targets] using agree

theorem Shape.rename_congr (shape : Shape ρ)
    (agree : ∀ target ∈ shape.targets, left target = right target) :
    shape.rename left = shape.rename right := by
  cases shape with
  | primitive primitive entries => rw [Shape.rename, Shape.rename]
  | object fields =>
      rw [Shape.rename, Shape.rename, renameFields_congr fields]
      simpa only [Shape.targets] using agree
  | array element =>
      rw [Shape.rename, Shape.rename, element.rename_congr]
      simpa only [Shape.targets] using agree
  | map value =>
      rw [Shape.rename, Shape.rename, value.rename_congr]
      simpa only [Shape.targets] using agree

theorem renameFields_congr (fields : List (TypeField ρ))
    (agree : ∀ target ∈ fieldTargets fields, left target = right target) :
    renameFields left fields = renameFields right fields := by
  match fields with
  | [] => rw [renameFields, renameFields]
  | ⟨name, description, type, required⟩ :: rest =>
      have first : type.rename left = type.rename right := by
        apply type.rename_congr
        intro target member
        exact agree target (List.mem_append_left _ member)
      have others : renameFields left rest = renameFields right rest := by
        apply renameFields_congr rest
        intro target member
        exact agree target (List.mem_append_right _ member)
      rw [renameFields, renameFields, first, others]

end

end ApiGraph
