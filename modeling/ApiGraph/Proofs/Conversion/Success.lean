import ApiGraph.Proofs.Conversion.Components
import ApiGraph.Proofs.Conversion.Support

namespace ApiGraph

/-! # When the conversion of components succeeds

A conversion succeeds in every state or in none: what is registered already spares a walk, but never
one that would fail. So all components can be converted exactly when every chain of references ends
and every definition is supported. -/

namespace Conversion

variable {document : Document} {start : Progress} {α β : Type}

def Succeeds (step : Conversion document start α) : Prop := ∃ value, step.value = .ok value

theorem Succeeds.mapOk {step : Conversion document start α} (succeeds : Succeeds step)
    {change : α → β} : Succeeds (step.mapOk change : Conversion document start β) := by
  rcases succeeds with ⟨value, success⟩
  exact ⟨change value, by rw [Step.mapOk, Step.map, success]; rfl⟩

theorem Succeeds.andThen {first : Conversion document start α} (succeeds : Succeeds first)
    {next : (state : Progress) → unregistered document state ≤ unregistered document start → α →
      Conversion document state β}
    (second : ∀ state within value, Succeeds (next state within value)) :
    Succeeds (first.andThen next : Conversion document start β) := by
  rcases first with ⟨result, state, within⟩
  rcases succeeds with ⟨value, success⟩
  cases success
  rcases second state within value with ⟨last, success⟩
  exact ⟨last, success⟩

end Conversion

open Conversion Registry

variable {document : Document}

/-! ## Walks -/

section Walk

variable {base : Progress} {resolve : Resolver document base}

/-- References to declared components are resolved. -/
def Resolver.Succeeds (resolve : Resolver document base) : Prop :=
  ∀ progress within path location, document.Declares path →
    Conversion.Succeeds (resolve progress within path location)

mutual

theorem succeeds_convertSlot (resolves : Resolver.Succeeds resolve) (slot : SchemaSlot)
    (supports : document.Supports slot) (location : String) (progress : Progress)
    (within : unregistered document progress ≤ unregistered document base) :
    Succeeds (convertSlot resolve slot location progress within) := by
  cases slot with
  | reference path =>
      rw [convertSlot]
      exact (resolves progress within path location (supports.declared path (.itself _))).mapOk
  | inline schema =>
      rw [convertSlot]
      apply (succeeds_convertShape resolves schema supports location progress within).andThen
      intro state _ shape
      exact ⟨.inline shape, rfl⟩
termination_by (sizeOf slot, 0, 0)

theorem succeeds_convertShape (resolves : Resolver.Succeeds resolve) (schema : Schema)
    (supports : document.Supports (.inline schema)) (location : String) (progress : Progress)
    (within : unregistered document progress ≤ unregistered document base) :
    Succeeds (convertShape resolve schema location progress within) := by
  rw [convertShape]
  split
  next value outline =>
    have part : schema.Part value := .value (Schema.outline_eq_map_iff.mp outline)
    exact (succeeds_convertSlot resolves value (supports.part part) _ progress within).mapOk
  next properties outline =>
    have parts : ∀ entry ∈ properties, document.Supports entry.2 := by
      intro entry member
      rw [Schema.outline_eq_object outline] at member
      exact supports.part (.property (Schema.isObject_of_outline outline)
        (Schema.mem_orderedProperties.mp member))
    exact (succeeds_convertFields resolves schema properties _ parts location progress
      within).mapOk
  next items outline =>
    have part : schema.Part items :=
      .items (Schema.isArray_of_outline outline) (Schema.outline_eq_array outline).symm
    exact (succeeds_convertSlot resolves items (supports.part part) _ progress within).mapOk
  next outline =>
    have missing : schema.items = none := (Schema.outline_eq_array outline).symm
    exact absurd missing
      (supports.filled schema (.itself _) (Schema.isArray_of_outline outline))
  next primitive outline =>
    unfold convertPrimitive
    split <;> exact ⟨_, rfl⟩
  next => exact ⟨.unknown, rfl⟩
  next => exact ⟨.unknown, rfl⟩
termination_by (sizeOf schema, 1, 0)
decreasing_by
  · exact Prod.Lex.left _ _ (Schema.sizeOf_lt_of_outline_eq_map ‹_›)
  · exact Prod.Lex.right _ (Prod.Lex.left _ _ Nat.zero_lt_one)
  · exact Prod.Lex.left _ _ (Schema.sizeOf_lt_of_outline_eq_array ‹_›)

theorem succeeds_convertFields (resolves : Resolver.Succeeds resolve) (schema : Schema)
    (properties : Entries SchemaSlot)
    (inside : ∀ entry ∈ properties, sizeOf entry.2 < sizeOf schema)
    (supports : ∀ entry ∈ properties, document.Supports entry.2) (location : String)
    (progress : Progress)
    (within : unregistered document progress ≤ unregistered document base) :
    Succeeds (convertFields resolve schema properties inside location progress within) := by
  match properties with
  | [] =>
      rw [convertFields]
      exact ⟨[], rfl⟩
  | (name, slot) :: rest =>
      rw [convertFields]
      apply (succeeds_convertSlot resolves slot (supports (name, slot) List.mem_cons_self) _ progress
        within).andThen
      intro state below type
      exact (succeeds_convertFields resolves schema rest _
        (fun entry member => supports entry (List.mem_cons_of_mem _ member)) location state _).mapOk
termination_by (sizeOf schema, 0, properties.length)
decreasing_by
  · exact Prod.Lex.left _ _ (inside (name, slot) (.head _))
  · exact Prod.Lex.right _ (Prod.Lex.right _ (Nat.lt_succ_self _))

end

end Walk

/-! ## Chains -/

/-- Every component leads to a definition. -/
def Document.ChainsEnd (document : Document) : Prop :=
  ∀ name ∈ Entries.names document.components.schemas,
    ∃ last schema, document.LeadsTo name last schema

/-- Every component that is a definition is supported. -/
def Document.DefinitionsHold (document : Document) : Prop :=
  ∀ name schema, document.schema? name = some (.inline schema) →
    document.Supports (.inline schema)

theorem Document.target?_of_declares {path : String} (declares : document.Declares path) :
    ∃ name declared, document.target? path = some ⟨name, declared⟩ := by
  rcases declares with ⟨name, named, member⟩
  have declared : (document.schema? name).isSome := (Entries.value?_isSome_iff _ _).mpr member
  exact ⟨name, declared, by simp only [target?, named, declared, dif_pos]⟩

/-- A chain that ends is followed to its end, since no name on it leads back to an earlier one. -/
theorem succeeds_followChain {registry : Registry} {last path final : String} {schema : Schema}
    {earlier : List String} (declared : document.schema? last = some (.reference path))
    (leads : document.LeadsTo last final schema)
    (before : ∀ name ∈ earlier,
      Relation.TransGen (Referable.Precedes document.components.schemas Pointer.schema?) name last) :
    ∃ result, followChain document registry last earlier path = .ok result := by
  cases leads with
  | here concrete =>
      rw [← Document.schema?, declared] at concrete
      cases concrete
  | @onward _ _ next _ _ reference target rest =>
      rw [← Document.schema?, declared] at reference
      cases reference
      have known : document.Declares path := by
        refine ⟨next, target, ?_⟩
        cases rest with
        | here declared => exact Entries.mem_names_of_value?_eq_some declared
        | onward declared => exact Entries.mem_names_of_value?_eq_some declared
      rcases Document.target?_of_declares known with ⟨name, isDeclared, found⟩
      have same : name = next :=
        Option.some.inj ((Document.target?_eq_some found).symm.trans target)
      subst same
      have step : Referable.Precedes document.components.schemas Pointer.schema? last name :=
        ⟨path, declared, target⟩
      have onward : ∀ other ∈ last :: earlier, Relation.TransGen
          (Referable.Precedes document.components.schemas Pointer.schema?) other name := by
        intro other member
        rcases List.mem_cons.mp member with equal | member
        · rw [equal]
          exact .single step
        · exact (before other member).tail step
      rw [followChain, found]
      dsimp only
      split
      next => exact ⟨_, rfl⟩
      next =>
        split
        next => exact ⟨_, rfl⟩
        next path reference =>
          split
          next repeated => exact absurd (onward name repeated) rest.not_recurrent
          next => exact succeeds_followChain reference rest onward
        next missing =>
          rw [missing] at isDeclared
          cases isDeclared
termination_by document.offChain (last :: earlier)
decreasing_by exact Document.offChain_cons_lt (by assumption) (by assumption)

/-! ## Components -/

/-- Nothing that is done with a shape once it is known can fail. -/
theorem Conversion.Succeeds.complete {start : Progress} {name : String}
    {walked : Conversion document (start.begin name) (Shape TypeId)} (succeeds : Succeeds walked)
    {finish : (progress : Progress) →
      unregistered document progress ≤ unregistered document (start.begin name) → Shape TypeId →
        Conversion document progress TypeId}
    (finishes : ∀ progress within shape, Succeeds (finish progress within shape))
    (within : unregistered document (walked.andThen finish).state ≤ unregistered document start) :
    Succeeds (⟨(walked.andThen finish).value, (walked.andThen finish).state, within⟩ :
      Conversion document start TypeId) :=
  succeeds.andThen finishes

theorem succeeds_convertConcrete {start : Progress}
    {convert : (progress : Progress) →
      unregistered document progress < unregistered document start → (name : String) →
        Conversion document progress TypeId}
    (converts : ∀ progress less name, name ∈ Entries.names document.components.schemas →
      Succeeds (convert progress less name))
    {name : String} {schema : Schema} (declared : document.schema? name = some (.inline schema))
    (fresh : start.isBound name = false) (supports : document.Supports (.inline schema)) :
    Succeeds (convertConcrete convert name schema declared fresh) := by
  unfold convertConcrete
  apply Succeeds.complete
  · apply succeeds_convertShape
    · intro progress within path location declares
      rcases Document.target?_of_declares declares with ⟨target, isDeclared, found⟩
      dsimp only
      rw [found]
      exact converts progress _ target ((Entries.value?_isSome_iff _ _).mp isDeclared)
    · exact supports
  · intro progress within shape
    exact ⟨start.registry.size, rfl⟩

theorem succeeds_convertNamed (chains : document.ChainsEnd) (definitions : document.DefinitionsHold)
    (start : Progress) (name : String)
    (member : name ∈ Entries.names document.components.schemas) :
    Succeeds (convertNamed document start name) := by
  have converts : ∀ progress
      (less : unregistered document progress < unregistered document start) name,
      name ∈ Entries.names document.components.schemas →
        Succeeds (convertNamed document progress name) :=
    fun progress less name member => succeeds_convertNamed chains definitions progress name member
  rw [convertNamed]
  split
  next id _ => exact ⟨id, rfl⟩
  next unbound =>
    split
    next missing =>
      rw [← Entries.value?_isSome_iff, ← Document.schema?, missing] at member
      cases member
    next schema found =>
      exact succeeds_convertConcrete converts found _ (definitions name schema found)
    next path reference =>
      rcases chains name member with ⟨final, definition, leads⟩
      have followed := @succeeds_followChain document start.registry _ _ _ _ [] reference leads
        (List.forall_mem_nil _)
      split
      next failed =>
        rw [failed] at followed
        rcases followed with ⟨_, success⟩
        cases success
      next => exact ⟨_, rfl⟩
      next chain target schema declared fresh _ =>
        apply (succeeds_convertConcrete converts declared fresh
          (definitions target schema declared)).andThen
        intro state _ id
        exact ⟨id, rfl⟩
termination_by unregistered document start

theorem succeeds_convertEach (chains : document.ChainsEnd) (definitions : document.DefinitionsHold)
    (progress : Progress) (names : List String)
    (members : ∀ name ∈ names, name ∈ Entries.names document.components.schemas) :
    Succeeds (convertEach document progress names) := by
  induction names generalizing progress with
  | nil => exact ⟨(), by rw [convertEach]; rfl⟩
  | cons name names induction =>
      rw [convertEach]
      apply (succeeds_convertNamed chains definitions progress name
        (members name List.mem_cons_self)).andThen
      intro state _ _
      exact induction state fun other member => members other (List.mem_cons_of_mem _ member)

/-- All components can be converted exactly when their chains of references end and their
definitions are supported. -/
theorem succeeds_convertComponents_iff (document : Document) :
    Succeeds (convertComponents document {}) ↔ document.ChainsEnd ∧ document.DefinitionsHold := by
  constructor
  · intro succeeds
    rcases succeeds with ⟨_, converted⟩
    have yields := yields_convertComponents document
    refine ⟨?_, ?_⟩
    · intro name member
      rcases yields.means converted name member with ⟨id, bound⟩
      rcases yields.faithful.leads bound with ⟨node, schema, _, leads⟩
      exact ⟨node.name, schema, leads⟩
    · intro name schema declared
      rcases yields.means converted name (Entries.mem_names_of_value?_eq_some declared) with
        ⟨id, bound⟩
      rcases yields.faithful.exists_translates (yields.settled converted) bound declared with
        ⟨node, _, _, translates⟩
      have translated : document.translateSlot (.inline schema) =
          some (.inline (node.shape.rename (convertComponents document {}).state.registry.nameOf)) := by
        rw [Document.translateSlot, translates.translated, Option.map_some]
      exact Document.supports_of_translateSlot translated
  · intro holds
    exact succeeds_convertEach holds.1 holds.2 {} _ fun _ member => member

end ApiGraph
