import ApiGraph.Proofs.Conversion.Faithful

namespace ApiGraph

/-! # The walk of a definition

Whatever a conversion does, it only adds to the registry and leaves it faithful to the document.
When it succeeds it also leaves open only what was open before, and what it hands on is the
translation of what it was given. The rules for sequences of steps come first; the walk then follows
them clause by clause. -/

namespace Conversion

variable {document : Document} {start : Progress} {α β : Type} {Means : Registry → α → Prop}
  {Meaning : Registry → β → Prop}

structure Yields (step : Conversion document start α) (Means : Registry → α → Prop) : Prop where
  grows : start.registry.Extends step.state.registry
  faithful : step.state.registry.Faithful document
  settled : ∀ {value}, step.value = .ok value →
    step.state.registry.pending = start.registry.pending
  means : ∀ {value}, step.value = .ok value → Means step.state.registry value

/-- A step that does not touch the registry. -/
theorem Yields.still {step : Conversion document start α}
    (same : step.state.registry = start.registry) (faithful : start.registry.Faithful document)
    (means : ∀ value, step.value = .ok value → Means start.registry value) : Yields step Means where
  grows := by
    rw [same]
    exact .refl start.registry
  faithful := by
    rw [same]
    exact faithful
  settled _ := by rw [same]
  means success := by
    rw [same]
    exact means _ success

theorem Yields.fail (faithful : start.registry.Faithful document) (error : BuildError) :
    Yields (.fail start error : Conversion document start α) Means := by
  apply Yields.still rfl faithful
  intro value success
  cases success

/-- A step that has failed is said to mean nothing, whatever its result would have been. -/
theorem Yields.of_error {error : BuildError} {state : Progress}
    {within : unregistered document state ≤ unregistered document start}
    (yields : Yields (⟨.error error, state, within⟩ : Conversion document start α) Means) :
    Yields (⟨.error error, state, within⟩ : Conversion document start β) Meaning where
  grows := yields.grows
  faithful := yields.faithful
  settled success := by cases success
  means success := by cases success

theorem Yields.mapOk {step : Conversion document start α} (yields : Yields step Means)
    {change : α → β}
    (implied : ∀ registry value, start.registry.Extends registry → registry.Faithful document →
      Means registry value → Meaning registry (change value)) :
    Yields (step.mapOk change : Conversion document start β) Meaning := by
  rcases step with ⟨value, state, within⟩
  cases value with
  | error error => exact yields.of_error
  | ok value =>
      refine ⟨yields.grows, yields.faithful, ?_, ?_⟩
      · intro _ _
        exact yields.settled rfl
      · intro changed success
        cases success
        exact implied state.registry value yields.grows yields.faithful (yields.means rfl)

theorem Yields.andThen {first : Conversion document start α} (yields : Yields first Means)
    {next : (state : Progress) → unregistered document state ≤ unregistered document start → α →
      Conversion document state β}
    (second : ∀ state within value, start.registry.Extends state.registry →
      state.registry.Faithful document → Means state.registry value →
        Yields (next state within value) Meaning) :
    Yields (first.andThen next : Conversion document start β) Meaning := by
  rcases first with ⟨value, state, within⟩
  cases value with
  | error error => exact yields.of_error
  | ok value =>
      have rest := second state within value yields.grows yields.faithful (yields.means rfl)
      refine ⟨yields.grows.trans rest.grows, rest.faithful, ?_, ?_⟩
      · intro result success
        exact (rest.settled success).trans (yields.settled rfl)
      · intro result success
        exact rest.means success

end Conversion

/-! ## Types that mean what was translated -/

namespace Registry

variable {before after : Registry}

/-- Every one of these types is registered. -/
def Registers (registry : Registry) (targets : List TypeId) : Prop :=
  ∀ target ∈ targets, target < registry.size

theorem Extends.registers (more : before.Extends after) {targets : List TypeId}
    (registered : before.Registers targets) : after.Registers targets := by
  intro target member
  exact Nat.lt_of_lt_of_le (registered target member) more.size_le

theorem Extends.rename_eq (more : before.Extends after) {type : TypeRef TypeId}
    (registered : before.Registers type.targets) :
    type.rename after.nameOf = type.rename before.nameOf := by
  apply type.rename_congr
  intro target member
  exact more.nameOf (registered target member)

variable (document : Document)

/-- A slot is translated to a type of the registry. -/
def HoldsSlot (slot : SchemaSlot) (registry : Registry) (type : TypeRef TypeId) : Prop :=
  registry.Registers type.targets ∧
    document.translateSlot slot = some (type.rename registry.nameOf)

def HoldsShape (schema : Schema) (registry : Registry) (shape : Shape TypeId) : Prop :=
  registry.Registers shape.targets ∧
    document.translate schema = some (shape.rename registry.nameOf)

def HoldsFields (schema : Schema) (properties : Entries SchemaSlot)
    (inside : ∀ entry ∈ properties, sizeOf entry.2 < sizeOf schema) (registry : Registry)
    (fields : List (TypeField TypeId)) : Prop :=
  registry.Registers (fieldTargets fields) ∧
    document.translateFields schema properties inside =
      some (renameFields registry.nameOf fields)

/-- A reference leads to a type of the registry. -/
def HoldsTarget (path : String) (registry : Registry) (id : TypeId) : Prop :=
  id < registry.size ∧ ∃ schema, document.designated? path = some (registry.nameOf id, schema)

end Registry

open Conversion Registry

/-! ## The cases of a walk -/

section Outline

variable {document : Document} {base progress : Progress} {resolve : Resolver document base}
  {schema : Schema} {location : String}
  {within : unregistered document progress ≤ unregistered document base}

theorem convertShape_of_map {value : SchemaSlot} (outline : schema.outline = .map value) :
    convertShape resolve schema location progress within =
      (convertSlot resolve value (location ++ "\x7b\x7d") progress within).mapOk .map := by
  rw [convertShape]
  split <;> rename_i found <;> rw [outline] at found <;> cases found
  rfl

theorem convertShape_of_object {properties : Entries SchemaSlot}
    (outline : schema.outline = .object properties) :
    convertShape resolve schema location progress within =
      (convertFields resolve schema properties
        (fun _ member => Schema.sizeOf_lt_of_outline_eq_object outline member) location progress
        within).mapOk .object := by
  rw [convertShape]
  split <;> rename_i found <;> rw [outline] at found <;> cases found
  rfl

theorem convertShape_of_array {items : SchemaSlot}
    (outline : schema.outline = .array (some items)) :
    convertShape resolve schema location progress within =
      (convertSlot resolve items (location ++ "[]") progress within).mapOk .array := by
  rw [convertShape]
  split <;> rename_i found <;> rw [outline] at found <;> cases found
  rfl

theorem convertShape_of_array_none (outline : schema.outline = .array none) :
    convertShape resolve schema location progress within =
      .fail progress (.missingElementType location) := by
  rw [convertShape]
  split <;> rename_i found <;> rw [outline] at found <;> cases found

theorem convertShape_of_primitive {primitive : Primitive}
    (outline : schema.outline = .primitive primitive) :
    convertShape resolve schema location progress within =
      convertPrimitive schema primitive location progress := by
  rw [convertShape]
  split <;> rename_i found <;> rw [outline] at found <;> cases found
  rfl

theorem convertShape_of_untyped (outline : schema.outline = .untyped) :
    convertShape resolve schema location progress within = .pure progress (.ok .unknown) := by
  rw [convertShape]
  split <;> rename_i found <;> rw [outline] at found <;> cases found

theorem convertShape_of_unsupported (outline : schema.outline = .unsupported) :
    convertShape resolve schema location progress within =
      convertUnsupported location progress := by
  rw [convertShape]
  split <;> rename_i found <;> rw [outline] at found <;> cases found

end Outline

/-! ## Walks -/

section Walk

variable {document : Document} {base : Progress} {resolve : Resolver document base}

/-- References are resolved to the types that they lead to. -/
def Resolver.IsSound (resolve : Resolver document base) : Prop :=
  ∀ progress within path location, progress.registry.Faithful document →
    Yields (resolve progress within path location) (HoldsTarget document path)

theorem yields_convertPrimitive (schema : Schema) (primitive : Primitive) (location : String)
    (progress : Progress) (faithful : progress.registry.Faithful document)
    (outline : schema.outline = .primitive primitive) :
    Yields (convertPrimitive schema primitive location progress : Conversion document _ _)
      (HoldsShape document schema) := by
  have means : HoldsShape document schema progress.registry
      (.primitive primitive schema.enumEntries) := by
    refine ⟨?_, ?_⟩
    · intro target member
      simp [Shape.targets] at member
    · rw [document.translate_eq, outline, Document.translateOutline, Shape.rename]
  unfold convertPrimitive
  split
  all_goals
    apply Yields.still rfl faithful
    intro shape success
    cases success
    exact means

theorem yields_unknown {progress : Progress} {schema : Schema}
    {step : Conversion document progress (Shape TypeId)}
    (same : step.state.registry = progress.registry) (unknown : step.value = .ok .unknown)
    (faithful : progress.registry.Faithful document)
    (translated : document.translate schema = some .unknown) :
    Yields step (HoldsShape document schema) := by
  apply Yields.still same faithful
  intro shape success
  rw [unknown] at success
  cases success
  refine ⟨?_, ?_⟩
  · intro target member
    simp [Shape.unknown, Shape.targets] at member
  · rw [translated]
    rfl

mutual

theorem yields_convertSlot (sound : Resolver.IsSound resolve) (slot : SchemaSlot)
    (location : String) (progress : Progress)
    (within : unregistered document progress ≤ unregistered document base)
    (faithful : progress.registry.Faithful document) :
    Yields (convertSlot resolve slot location progress within) (HoldsSlot document slot) := by
  cases slot with
  | reference path =>
      rw [convertSlot]
      apply (sound progress within path location faithful).mapOk
      intro registry id _ _ holds
      rcases holds with ⟨registered, schema, designated⟩
      refine ⟨?_, ?_⟩
      · intro target member
        simp only [TypeRef.targets, List.mem_singleton] at member
        rw [member]
        exact registered
      · rw [Document.translateSlot, designated, Option.map_some, TypeRef.rename]
  | inline schema =>
      rw [convertSlot]
      apply (yields_convertShape sound schema location progress within faithful).andThen
      intro state _ shape _ faithful holds
      rcases holds with ⟨registered, translated⟩
      apply Yields.still rfl faithful
      intro type success
      cases success
      refine ⟨?_, ?_⟩
      · simpa only [TypeRef.targets] using registered
      · rw [Document.translateSlot, translated, Option.map_some, TypeRef.rename]
termination_by (sizeOf slot, 0, 0)

theorem yields_convertShape (sound : Resolver.IsSound resolve) (schema : Schema)
    (location : String) (progress : Progress)
    (within : unregistered document progress ≤ unregistered document base)
    (faithful : progress.registry.Faithful document) :
    Yields (convertShape resolve schema location progress within) (HoldsShape document schema) := by
  rw [convertShape]
  split
  next value outline =>
    apply (yields_convertSlot sound value _ progress within faithful).mapOk
    intro registry type _ _ holds
    rcases holds with ⟨registered, translated⟩
    refine ⟨?_, ?_⟩
    · simpa only [Shape.targets] using registered
    · rw [document.translate_eq, outline, Document.translateOutline, translated, Option.map_some,
        Shape.rename]
  next properties outline =>
    have inside : ∀ entry ∈ properties, sizeOf entry.2 < sizeOf schema :=
      fun _ member => Schema.sizeOf_lt_of_outline_eq_object outline member
    have yields := yields_convertFields sound schema properties inside location progress within
      faithful
    apply yields.mapOk
    intro registry fields _ _ holds
    rcases holds with ⟨registered, translated⟩
    refine ⟨?_, ?_⟩
    · simpa only [Shape.targets] using registered
    · have ordered := Schema.outline_eq_object outline
      subst ordered
      rw [document.translate_eq, outline, Document.translateOutline, Document.translateObject,
        translated, Option.map_some, Shape.rename]
  next items outline =>
    apply (yields_convertSlot sound items _ progress within faithful).mapOk
    intro registry type _ _ holds
    rcases holds with ⟨registered, translated⟩
    refine ⟨?_, ?_⟩
    · simpa only [Shape.targets] using registered
    · rw [document.translate_eq, outline, Document.translateOutline,
        document.translateArray_eq (Schema.outline_eq_array outline).symm, translated,
        Option.map_some, Shape.rename]
  next => exact .fail faithful _
  next primitive outline =>
    exact yields_convertPrimitive schema primitive location progress faithful outline
  next outline =>
    apply yields_unknown rfl rfl faithful
    rw [document.translate_eq, outline, Document.translateOutline]
  next outline =>
    apply yields_unknown rfl rfl faithful
    rw [document.translate_eq, outline, Document.translateOutline]
termination_by (sizeOf schema, 1, 0)
decreasing_by
  · exact Prod.Lex.left _ _ (Schema.sizeOf_lt_of_outline_eq_map ‹_›)
  · exact Prod.Lex.right _ (Prod.Lex.left _ _ Nat.zero_lt_one)
  · exact Prod.Lex.left _ _ (Schema.sizeOf_lt_of_outline_eq_array ‹_›)

theorem yields_convertFields (sound : Resolver.IsSound resolve) (schema : Schema)
    (properties : Entries SchemaSlot)
    (inside : ∀ entry ∈ properties, sizeOf entry.2 < sizeOf schema) (location : String)
    (progress : Progress) (within : unregistered document progress ≤ unregistered document base)
    (faithful : progress.registry.Faithful document) :
    Yields (convertFields resolve schema properties inside location progress within)
      (HoldsFields document schema properties inside) := by
  match properties with
  | [] =>
      rw [convertFields]
      apply Yields.still rfl faithful
      intro fields success
      cases success
      refine ⟨?_, ?_⟩
      · intro target member
        simp [fieldTargets] at member
      · rw [Document.translateFields, renameFields]
  | (name, slot) :: rest =>
      rw [convertFields]
      apply (yields_convertSlot sound slot _ progress within faithful).andThen
      intro state below type _ faithful holds
      rcases holds with ⟨registered, translated⟩
      apply (yields_convertFields sound schema rest _ location state _ faithful).mapOk
      intro registry fields grown _ holds
      rcases holds with ⟨others, translatedRest⟩
      refine ⟨?_, ?_⟩
      · intro target member
        rcases List.mem_append.mp member with member | member
        · exact grown.registers registered target member
        · exact others target member
      · have required : schema.isRequired name = decide (name ∈ schema.required) := by
          rw [Schema.isRequired, List.contains_eq_mem]
        rw [Document.translateFields, translated, Option.bind_some, translatedRest,
          Option.map_some, renameFields, grown.rename_eq registered, document.summaryOf_eq,
          required]
termination_by (sizeOf schema, 0, properties.length)
decreasing_by
  · exact Prod.Lex.left _ _ (inside (name, slot) (.head _))
  · exact Prod.Lex.right _ (Prod.Lex.right _ (Nat.lt_succ_self _))

end

end Walk

end ApiGraph
