import ApiGraph.Document
import ApiGraph.Registry
import ApiGraph.Statistics
import ApiGraph.Step

namespace ApiGraph

/-! The state of a conversion: the types registered so far and what has been counted on the way. A
conversion comes to an end with a result or with an error. -/

/-- What makes a build fail. -/
inductive BuildError where
  /-- A reference that leads to no definition, and the place that it stands at. -/
  | unresolvedReference (reference location : String)
  /-- A list without a schema for its items. -/
  | missingElementType (location : String)
  /-- A name that only refers back to itself. -/
  | circularAlias (name : String)
  deriving DecidableEq, Repr

def BuildError.message : BuildError → String
  | .unresolvedReference reference location =>
      location ++ ": unresolved reference '" ++ reference ++ "'"
  | .missingElementType location => location ++ ": array schema has no item schema"
  | .circularAlias name => "schema alias '" ++ name ++ "' refers back to itself"

structure Progress where
  registry : Registry := {}
  statistics : Statistics := {}

namespace Progress

def isBound (progress : Progress) (name : String) : Bool := progress.registry.isBound name

def warn (progress : Progress) (warning : Warning) : Progress :=
  { progress with statistics := progress.statistics.warn warning }

def countAnonymousType (progress : Progress) : Progress :=
  { progress with statistics := progress.statistics.countAnonymousType }

def countHandler (progress : Progress) : Progress :=
  { progress with statistics := progress.statistics.countHandler }

/-- Register a type whose shape is still to come. -/
def begin (progress : Progress) (name : String) : Progress where
  registry := (progress.registry.reserve name).2
  statistics := progress.statistics.countNamedType

def complete (progress : Progress) (id : TypeId) (description : Option String)
    (shape : Shape TypeId) : Progress :=
  { progress with registry := progress.registry.complete id description shape }

/-- Bind further names to a type. Those that are bound already are left alone and do not count. -/
def bindAliases (progress : Progress) (id : TypeId) : List String → Progress
  | [] => progress
  | name :: names =>
      let (added, registry) := progress.registry.bindAlias name id
      let statistics :=
        if added then progress.statistics.countAlias else progress.statistics
      bindAliases ⟨registry, statistics⟩ id names

end Progress

/-! ## How much is left

The number of concrete definitions whose names are not bound yet. Every conversion of a definition
starts by binding its name, and no name is ever freed. -/

/-- Whether a component is a definition of its own, rather than a reference to another one. -/
def isConcrete : SchemaSlot → Bool
  | .inline _ => true
  | .reference _ => false

def unregistered (document : Document) (progress : Progress) : Nat :=
  document.components.schemas.countP fun (name, slot) =>
    isConcrete slot && !progress.isBound name

theorem Registry.isBound_iff (registry : Registry) (name : String) :
    registry.isBound name ↔ name ∈ Entries.names registry.bindings :=
  Entries.value?_isSome_iff _ _

/-- A name that is bound already makes no difference. -/
theorem Registry.isBound_of_isBound {registry : Registry} {name : String}
    (bound : registry.isBound name) (other : String) :
    registry.isBound other ↔ other = name ∨ registry.isBound other :=
  (or_iff_right_of_imp fun equal => equal ▸ bound).symm

theorem Registry.isBound_of_bindings_eq {before after : Registry} {name : String} {id : TypeId}
    (added : after.bindings = before.bindings ++ [(name, id)]) (other : String) :
    after.isBound other ↔ other = name ∨ before.isBound other := by
  rw [isBound_iff, isBound_iff, added, Entries.names, List.map_append, List.mem_append, Or.comm]
  simp only [List.map_cons, List.map_nil, List.mem_singleton, Entries.names]

theorem Registry.isBound_reserve (registry : Registry) (name other : String) :
    (registry.reserve name).2.isBound other ↔ other = name ∨ registry.isBound other := by
  unfold Registry.reserve
  split
  next id found =>
    have bound : registry.isBound name := by simp [Registry.isBound, found]
    exact isBound_of_isBound bound other
  next => exact isBound_of_bindings_eq rfl other

theorem Registry.isBound_bindAlias (registry : Registry) (name other : String) (id : TypeId) :
    (registry.bindAlias name id).2.isBound other ↔ other = name ∨ registry.isBound other := by
  unfold Registry.bindAlias
  split
  next bound => exact isBound_of_isBound bound other
  next => exact isBound_of_bindings_eq rfl other

theorem Progress.isBound_begin (progress : Progress) (name other : String) :
    (progress.begin name).isBound other ↔ other = name ∨ progress.isBound other :=
  progress.registry.isBound_reserve name other

theorem Progress.isBound_bindAliases (progress : Progress) (id : TypeId) (names : List String)
    (other : String) :
    (progress.bindAliases id names).isBound other ↔ other ∈ names ∨ progress.isBound other := by
  induction names generalizing progress with
  | nil => simp [bindAliases]
  | cons name names induction =>
      have first : Progress.isBound ⟨(progress.registry.bindAlias name id).2,
          if (progress.registry.bindAlias name id).1 then progress.statistics.countAlias
          else progress.statistics⟩ other ↔ other = name ∨ progress.isBound other :=
        progress.registry.isBound_bindAlias name other id
      rw [bindAliases, induction, first, List.mem_cons]
      constructor
      · rintro (inside | equal | bound)
        · exact .inl (.inr inside)
        · exact .inl (.inl equal)
        · exact .inr bound
      · rintro ((equal | inside) | bound)
        · exact .inr (.inl equal)
        · exact .inl inside
        · exact .inr (.inr bound)

theorem unregistered_le {document : Document} {before after : Progress}
    (kept : ∀ name, before.isBound name → after.isBound name) :
    unregistered document after ≤ unregistered document before := by
  apply List.countP_mono_left
  rintro ⟨name, slot⟩ _ counted
  simp only [Bool.and_eq_true, Bool.not_eq_true'] at counted ⊢
  refine ⟨counted.1, ?_⟩
  cases bound : before.isBound name with
  | false => rfl
  | true => rw [kept name bound] at counted; exact counted.2

theorem unregistered_eq {document : Document} {before after : Progress}
    (kept : ∀ name, after.isBound name = before.isBound name) :
    unregistered document after = unregistered document before := by
  simp only [unregistered, kept]

theorem countP_lt_countP {α : Type} {few many : α → Bool} {values : List α} {value : α}
    (member : value ∈ values) (weaker : ∀ value ∈ values, few value → many value)
    (more : many value) (less : few value = false) : values.countP few < values.countP many := by
  induction values with
  | nil => cases member
  | cons head rest induction =>
      have below := List.countP_mono_left fun value inside =>
        weaker value (List.mem_cons_of_mem head inside)
      rcases List.mem_cons.mp member with equal | member
      · subst equal
        simp only [List.countP_cons, more, less, if_true, Bool.false_eq_true, if_false]
        omega
      · have strict := induction member fun value inside =>
          weaker value (List.mem_cons_of_mem head inside)
        have here := weaker head List.mem_cons_self
        simp only [List.countP_cons]
        by_cases counted : few head
        · simp only [counted, here counted, if_true]
          omega
        · simp only [counted, Bool.false_eq_true, if_false]
          omega

theorem unregistered_begin_lt {document : Document} {progress : Progress} {name : String}
    {schema : Schema} (declared : document.schema? name = some (.inline schema))
    (fresh : progress.isBound name = false) :
    unregistered document (progress.begin name) < unregistered document progress := by
  refine countP_lt_countP (Entries.mem_of_value?_eq_some declared) ?_ ?_ ?_
  · rintro ⟨other, slot⟩ _ counted
    simp only [Bool.and_eq_true, Bool.not_eq_true'] at counted ⊢
    refine ⟨counted.1, ?_⟩
    cases bound : progress.isBound other with
    | false => rfl
    | true =>
        rw [(progress.isBound_begin name other).mpr (.inr bound)] at counted
        exact counted.2
  · simp [isConcrete, fresh]
  · simp [isConcrete, (progress.isBound_begin name name).mpr (.inl rfl)]

end ApiGraph
