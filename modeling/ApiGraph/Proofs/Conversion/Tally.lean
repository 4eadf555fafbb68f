import ApiGraph.Proofs.Conversion.Components

namespace ApiGraph

/-! # What a conversion counts

A walk of a definition counts the inline types that it makes and warns of what it finds, and so does
the walk of every component that is met on the way for the first time. What a definition comes to by
itself depends on nothing else, and no component is walked twice; so the sum of a conversion is known
from the types that it registers. -/

/-- Inline types, handlers and warnings. -/
structure Tally where
  anonymousTypes : Nat := 0
  handlers : Nat := 0
  warnings : List Warning := []

namespace Tally

variable {first second third left right : Tally}

instance : Append Tally where
  append first second :=
    ⟨first.anonymousTypes + second.anonymousTypes, first.handlers + second.handlers,
      first.warnings ++ second.warnings⟩

@[simp] theorem anonymousTypes_append :
    (first ++ second).anonymousTypes = first.anonymousTypes + second.anonymousTypes := rfl

@[simp] theorem handlers_append :
    (first ++ second).handlers = first.handlers + second.handlers := rfl

@[simp] theorem warnings_append :
    (first ++ second).warnings = first.warnings ++ second.warnings := rfl

@[ext] theorem ext (anonymousTypes : first.anonymousTypes = second.anonymousTypes)
    (handlers : first.handlers = second.handlers) (warnings : first.warnings = second.warnings) :
    first = second := by
  cases first
  cases second
  cases anonymousTypes
  cases handlers
  cases warnings
  rfl

@[simp] theorem append_empty : first ++ ({} : Tally) = first := by
  apply ext <;> simp

@[simp] theorem empty_append : ({} : Tally) ++ first = first := by
  apply ext <;> simp

theorem append_assoc : first ++ second ++ third = first ++ (second ++ third) := by
  apply ext <;> simp [Nat.add_assoc]

/-- The same up to the order of the warnings. -/
structure Alike (left right : Tally) : Prop where
  anonymousTypes : left.anonymousTypes = right.anonymousTypes
  handlers : left.handlers = right.handlers
  warnings : left.warnings.Perm right.warnings

theorem Alike.refl (tally : Tally) : tally.Alike tally := ⟨rfl, rfl, .refl _⟩

theorem Alike.symm (alike : left.Alike right) : right.Alike left :=
  ⟨alike.anonymousTypes.symm, alike.handlers.symm, alike.warnings.symm⟩

theorem Alike.trans (before : first.Alike second) (after : second.Alike third) :
    first.Alike third :=
  ⟨before.anonymousTypes.trans after.anonymousTypes, before.handlers.trans after.handlers,
    before.warnings.trans after.warnings⟩

theorem Alike.append (before : first.Alike second) (after : left.Alike right) :
    (first ++ left).Alike (second ++ right) :=
  ⟨congrArg₂ (· + ·) before.anonymousTypes after.anonymousTypes,
    congrArg₂ (· + ·) before.handlers after.handlers, before.warnings.append after.warnings⟩

theorem append_comm (left right : Tally) : (left ++ right).Alike (right ++ left) :=
  ⟨Nat.add_comm _ _, Nat.add_comm _ _, List.perm_append_comm⟩

def sum : List Tally → Tally
  | [] => {}
  | tally :: rest => tally ++ sum rest

theorem sum_append (tallies others : List Tally) :
    sum (tallies ++ others) = sum tallies ++ sum others := by
  induction tallies with
  | nil => simp [sum]
  | cons tally rest induction => simp [sum, induction, append_assoc]

theorem sum_perm {tallies others : List Tally} (perm : tallies.Perm others) :
    (sum tallies).Alike (sum others) := by
  induction perm with
  | nil => exact .refl _
  | cons tally _ induction => exact (Alike.refl tally).append induction
  | swap first second rest =>
      simp only [sum, ← append_assoc]
      exact (append_comm _ _).append (.refl _)
  | trans _ _ first second => exact first.trans second

end Tally

namespace Statistics

variable (statistics : Statistics)

/-- The statistics after some types and other names have been registered. -/
def charge (types aliases : Nat) (tally : Tally) : Statistics :=
  { statistics with
    namedTypes := statistics.namedTypes + types
    aliases := statistics.aliases + aliases
    anonymousTypes := statistics.anonymousTypes + tally.anonymousTypes
    handlersConverted := statistics.handlersConverted + tally.handlers
    warnings := statistics.warnings ++ tally.warnings }

@[simp] theorem charge_nothing : statistics.charge 0 0 {} = statistics := by
  simp [charge]

theorem charge_charge (types aliases more others : Nat) (first second : Tally) :
    (statistics.charge types aliases first).charge more others second =
      statistics.charge (types + more) (aliases + others) (first ++ second) := by
  simp [charge, Nat.add_assoc]

end Statistics

/-! ## The tally of a definition -/

mutual

def slotTally (slot : SchemaSlot) (location : String) : Tally :=
  match slot with
  | .reference _ => {}
  | .inline schema => shapeTally schema location ++ { anonymousTypes := 1 }
termination_by (sizeOf slot, 0, 0)

def shapeTally (schema : Schema) (location : String) : Tally :=
  match outline : schema.outline with
  | .map value => slotTally value (location ++ "\x7b\x7d")
  | .object properties =>
      propertyTally schema properties
        (fun _ member => Schema.sizeOf_lt_of_outline_eq_object outline member) location
  | .array (some items) => slotTally items (location ++ "[]")
  | .array none => {}
  | .primitive _ => { warnings := (schema.enumWarning? location).toList }
  | .untyped => {}
  | .unsupported => { warnings := [.unsupportedSchema location] }
termination_by (sizeOf schema, 1, 0)
decreasing_by
  · exact Prod.Lex.left _ _ (Schema.sizeOf_lt_of_outline_eq_map outline)
  · exact Prod.Lex.right _ (Prod.Lex.left _ _ Nat.zero_lt_one)
  · exact Prod.Lex.left _ _ (Schema.sizeOf_lt_of_outline_eq_array outline)

def propertyTally (schema : Schema) (properties : Entries SchemaSlot)
    (inside : ∀ entry ∈ properties, sizeOf entry.2 < sizeOf schema) (location : String) : Tally :=
  match properties with
  | [] => {}
  | (name, slot) :: rest =>
      slotTally slot (location ++ "." ++ name) ++
        propertyTally schema rest (fun entry member => inside entry (.tail _ member)) location
termination_by (sizeOf schema, 0, properties.length)
decreasing_by
  · exact Prod.Lex.left _ _ (inside (name, slot) (.head _))
  · exact Prod.Lex.right _ (Prod.Lex.right _ (Nat.lt_succ_self _))

end

section Outline

variable {schema : Schema} {value items : SchemaSlot} {location : String}

theorem shapeTally_of_map (outline : schema.outline = .map value) :
    shapeTally schema location = slotTally value (location ++ "\x7b\x7d") := by
  rw [shapeTally]
  split <;> rename_i found <;> rw [outline] at found <;> cases found
  rfl

theorem shapeTally_of_object {properties : Entries SchemaSlot}
    (outline : schema.outline = .object properties) :
    shapeTally schema location = propertyTally schema properties
      (fun _ member => Schema.sizeOf_lt_of_outline_eq_object outline member) location := by
  rw [shapeTally]
  split <;> rename_i found <;> rw [outline] at found <;> cases found
  rfl

theorem shapeTally_of_array (outline : schema.outline = .array (some items)) :
    shapeTally schema location = slotTally items (location ++ "[]") := by
  rw [shapeTally]
  split <;> rename_i found <;> rw [outline] at found <;> cases found
  rfl

theorem shapeTally_of_array_none (outline : schema.outline = .array none) :
    shapeTally schema location = {} := by
  rw [shapeTally]
  split <;> rename_i found <;> rw [outline] at found <;> cases found

theorem shapeTally_of_primitive {primitive : Primitive}
    (outline : schema.outline = .primitive primitive) :
    shapeTally schema location = { warnings := (schema.enumWarning? location).toList } := by
  rw [shapeTally]
  split <;> rename_i found <;> rw [outline] at found <;> cases found

theorem shapeTally_of_untyped (outline : schema.outline = .untyped) :
    shapeTally schema location = {} := by
  rw [shapeTally]
  split <;> rename_i found <;> rw [outline] at found <;> cases found

theorem shapeTally_of_unsupported (outline : schema.outline = .unsupported) :
    shapeTally schema location = { warnings := [.unsupportedSchema location] } := by
  rw [shapeTally]
  split <;> rename_i found <;> rw [outline] at found <;> cases found

end Outline

namespace Document

variable (document : Document)

/-- What the definition of a component comes to. It is walked under the name of the component. -/
def definitionTally (name : String) : Tally :=
  match document.schema? name with
  | some (.inline schema) => shapeTally schema name
  | _ => {}

/-- What the definitions of some components come to. -/
def componentTally (names : List String) : Tally :=
  .sum (names.map document.definitionTally)

@[simp] theorem componentTally_nil : document.componentTally [] = {} := rfl

@[simp] theorem componentTally_cons (name : String) (names : List String) :
    document.componentTally (name :: names) =
      document.definitionTally name ++ document.componentTally names := rfl

theorem componentTally_append (names others : List String) :
    document.componentTally (names ++ others) =
      document.componentTally names ++ document.componentTally others := by
  rw [componentTally, List.map_append, Tally.sum_append]
  rfl

theorem componentTally_perm {names others : List String} (perm : names.Perm others) :
    (document.componentTally names).Alike (document.componentTally others) :=
  Tally.sum_perm (perm.map _)

end Document

/-! ## Warnings of a conversion

The configuration has no part in a conversion, and no warning of a conversion is about it. -/

def Warning.isConfigured : Warning → Bool
  | .unknownConfiguredType _ _ => true
  | _ => false

/-- No warning is about the configuration. -/
def Tally.Unconfigured (tally : Tally) : Prop :=
  ∀ warning ∈ tally.warnings, warning.isConfigured = false

namespace Tally.Unconfigured

variable {first second : Tally}

theorem empty : Unconfigured {} := by
  intro warning member
  cases member

theorem single {warning : Warning} (other : warning.isConfigured = false) :
    Unconfigured { warnings := [warning] } := by
  intro found member
  rw [List.mem_singleton.mp member]
  exact other

theorem append (before : first.Unconfigured) (after : second.Unconfigured) :
    (first ++ second).Unconfigured := by
  intro warning member
  rcases List.mem_append.mp member with member | member
  · exact before warning member
  · exact after warning member

theorem sum {tallies : List Tally} (each : ∀ tally ∈ tallies, tally.Unconfigured) :
    (Tally.sum tallies).Unconfigured := by
  induction tallies with
  | nil => exact empty
  | cons tally rest induction =>
      have parts := List.forall_mem_cons.mp each
      exact parts.1.append (induction parts.2)

end Tally.Unconfigured

mutual

theorem unconfigured_slotTally (slot : SchemaSlot) (location : String) :
    (slotTally slot location).Unconfigured := by
  cases slot with
  | reference path =>
      rw [slotTally]
      exact .empty
  | inline schema =>
      rw [slotTally]
      refine (unconfigured_shapeTally schema location).append ?_
      intro warning member
      cases member
termination_by (sizeOf slot, 0, 0)

theorem unconfigured_shapeTally (schema : Schema) (location : String) :
    (shapeTally schema location).Unconfigured := by
  rw [shapeTally]
  split
  next value outline => exact unconfigured_slotTally value _
  next properties outline => exact unconfigured_propertyTally schema properties _ location
  next items outline => exact unconfigured_slotTally items _
  next => exact .empty
  next primitive outline =>
    intro warning member
    rw [Option.mem_toList, Schema.enumWarning?] at member
    split at member
    · split at member
      · cases member
      · cases member
        rfl
    · cases member
  next => exact .empty
  next => exact .single rfl
termination_by (sizeOf schema, 1, 0)
decreasing_by
  · exact Prod.Lex.left _ _ (Schema.sizeOf_lt_of_outline_eq_map ‹_›)
  · exact Prod.Lex.right _ (Prod.Lex.left _ _ Nat.zero_lt_one)
  · exact Prod.Lex.left _ _ (Schema.sizeOf_lt_of_outline_eq_array ‹_›)

theorem unconfigured_propertyTally (schema : Schema) (properties : Entries SchemaSlot)
    (inside : ∀ entry ∈ properties, sizeOf entry.2 < sizeOf schema) (location : String) :
    (propertyTally schema properties inside location).Unconfigured := by
  match properties with
  | [] =>
      rw [propertyTally]
      exact .empty
  | (name, slot) :: rest =>
      rw [propertyTally]
      exact (unconfigured_slotTally slot _).append
        (unconfigured_propertyTally schema rest _ location)
termination_by (sizeOf schema, 0, properties.length)
decreasing_by
  · exact Prod.Lex.left _ _ (inside (name, slot) (.head _))
  · exact Prod.Lex.right _ (Prod.Lex.right _ (Nat.lt_succ_self _))

end

theorem Document.unconfigured_componentTally (document : Document) (names : List String) :
    (document.componentTally names).Unconfigured := by
  apply Tally.Unconfigured.sum
  intro tally member
  rcases List.mem_map.mp member with ⟨name, _, rfl⟩
  unfold definitionTally
  split
  · exact unconfigured_shapeTally _ name
  · exact .empty

/-! ## The account of a step -/

/-- The second state is the first one with some more types and other names. -/
structure Progress.Charges (before after : Progress) (added : List String) (aliases : Nat)
    (total : Tally) : Prop where
  names : after.registry.names = before.registry.names ++ added
  bindings : after.registry.bindings.length =
    before.registry.bindings.length + added.length + aliases
  statistics : after.statistics = before.statistics.charge added.length aliases total

theorem Progress.Charges.refl (progress : Progress) : progress.Charges progress [] 0 {} :=
  ⟨by simp, by simp, by simp⟩

theorem Progress.Charges.trans {before middle after : Progress} {added more : List String}
    {aliases others : Nat} {first second : Tally}
    (charges : before.Charges middle added aliases first)
    (next : middle.Charges after more others second) :
    before.Charges after (added ++ more) (aliases + others) (first ++ second) where
  names := by rw [next.names, charges.names, List.append_assoc]
  bindings := by
    rw [next.bindings, charges.bindings, List.length_append]
    omega
  statistics := by
    rw [next.statistics, charges.statistics, Statistics.charge_charge, List.length_append]

namespace Conversion

variable {document : Document} {start : Progress} {α β : Type} {own rest : Tally}

/-- A step that succeeds counts what it comes to by itself and what the types that it registers come
to, in some order, which is the order of the step where it registers no type. -/
def Accounts (step : Conversion document start α) (own : Tally) : Prop :=
  ∀ value, step.value = .ok value → ∃ added aliases total,
    start.Charges step.state added aliases total ∧
      total.Alike (own ++ document.componentTally added) ∧ (added = [] → total = own)

/-- A step that registers nothing. -/
theorem Accounts.plain {step : Conversion document start α} (aliases : Nat)
    (charges : start.Charges step.state [] aliases own) : Accounts step own := by
  intro _ _
  refine ⟨[], aliases, own, charges, ?_, fun _ => rfl⟩
  rw [Document.componentTally_nil, Tally.append_empty]
  exact .refl own

theorem Accounts.fail (error : BuildError) :
    Accounts (.fail start error : Conversion document start α) own := by
  intro value success
  cases success

theorem Accounts.mapOk {step : Conversion document start α} (accounts : Accounts step own)
    {change : α → β} : Accounts (step.mapOk change : Conversion document start β) own := by
  rcases step with ⟨value, state, within⟩
  intro changed success
  cases value with
  | error error => cases success
  | ok value => exact accounts value rfl

theorem Accounts.andThen {first : Conversion document start α} (accounts : Accounts first own)
    {next : (state : Progress) → unregistered document state ≤ unregistered document start → α →
      Conversion document state β}
    (second : ∀ state within value, Accounts (next state within value) rest) :
    Accounts (first.andThen next : Conversion document start β) (own ++ rest) := by
  rcases first with ⟨value, state, within⟩
  intro result success
  cases value with
  | error error => cases success
  | ok value =>
      rcases accounts value rfl with ⟨added, aliases, total, charges, alike, settled⟩
      rcases second state within value result success with
        ⟨more, others, later, next, alikeLater, settledLater⟩
      refine ⟨added ++ more, aliases + others, total ++ later, charges.trans next, ?_, ?_⟩
      · rw [Document.componentTally_append]
        refine (alike.append alikeLater).trans ?_
        rw [Tally.append_assoc, Tally.append_assoc, ← @Tally.append_assoc _ rest,
          ← @Tally.append_assoc rest]
        exact (Tally.Alike.refl own).append ((Tally.append_comm _ _).append (.refl _))
      · intro none
        rcases List.append_eq_nil_iff.mp none with ⟨noneAdded, noMore⟩
        rw [settled noneAdded, settledLater noMore]

end Conversion

open Conversion Registry

variable {document : Document}

/-! ## Walks -/

section Walk

variable {base : Progress} {resolve : Resolver document base}

/-- What a reference leads to counts for the types that are registered on the way only. -/
def Resolver.Accounts (resolve : Resolver document base) : Prop :=
  ∀ progress within path location, Conversion.Accounts (resolve progress within path location) {}

theorem accounts_warn {progress state : Progress} {α : Type} {value : Except BuildError α}
    {warning : Warning} {within : unregistered document state ≤ unregistered document progress}
    (warned : state = progress.warn warning) :
    Accounts (⟨value, state, within⟩ : Conversion document progress α)
      { warnings := [warning] } := by
  subst warned
  exact .plain 0 ⟨by simp [Progress.warn], by simp [Progress.warn],
    by simp [Progress.warn, Statistics.warn, Statistics.charge]⟩

mutual

theorem accounts_convertSlot (accounts : Resolver.Accounts resolve) (slot : SchemaSlot)
    (location : String) (progress : Progress)
    (within : unregistered document progress ≤ unregistered document base) :
    Accounts (convertSlot resolve slot location progress within) (slotTally slot location) := by
  cases slot with
  | reference path =>
      rw [convertSlot, slotTally]
      exact (accounts progress within path location).mapOk
  | inline schema =>
      rw [convertSlot, slotTally]
      apply (accounts_convertShape accounts schema location progress within).andThen
      intro state _ shape
      refine .plain 0 ⟨?_, ?_, ?_⟩
      · simp [finishInline, Progress.countAnonymousType]
      · simp [finishInline, Progress.countAnonymousType]
      · simp [finishInline, Progress.countAnonymousType, Statistics.countAnonymousType,
          Statistics.charge]
termination_by (sizeOf slot, 0, 0)

theorem accounts_convertShape (accounts : Resolver.Accounts resolve) (schema : Schema)
    (location : String) (progress : Progress)
    (within : unregistered document progress ≤ unregistered document base) :
    Accounts (convertShape resolve schema location progress within)
      (shapeTally schema location) := by
  rw [convertShape]
  split
  next value outline =>
    rw [shapeTally_of_map outline]
    exact (accounts_convertSlot accounts value _ progress within).mapOk
  next properties outline =>
    rw [shapeTally_of_object outline]
    exact (accounts_convertFields accounts schema properties _ location progress within).mapOk
  next items outline =>
    rw [shapeTally_of_array outline]
    exact (accounts_convertSlot accounts items _ progress within).mapOk
  next => exact .fail _
  next primitive outline =>
    rw [shapeTally_of_primitive outline]
    unfold convertPrimitive
    split
    next none =>
      rw [none]
      exact .plain 0 (.refl progress)
    next warning found =>
      rw [found]
      exact accounts_warn rfl
  next outline =>
    rw [shapeTally_of_untyped outline]
    exact .plain 0 (.refl progress)
  next outline =>
    rw [shapeTally_of_unsupported outline]
    exact accounts_warn rfl
termination_by (sizeOf schema, 1, 0)
decreasing_by
  · exact Prod.Lex.left _ _ (Schema.sizeOf_lt_of_outline_eq_map ‹_›)
  · exact Prod.Lex.right _ (Prod.Lex.left _ _ Nat.zero_lt_one)
  · exact Prod.Lex.left _ _ (Schema.sizeOf_lt_of_outline_eq_array ‹_›)

theorem accounts_convertFields (accounts : Resolver.Accounts resolve) (schema : Schema)
    (properties : Entries SchemaSlot)
    (inside : ∀ entry ∈ properties, sizeOf entry.2 < sizeOf schema) (location : String)
    (progress : Progress)
    (within : unregistered document progress ≤ unregistered document base) :
    Accounts (convertFields resolve schema properties inside location progress within)
      (propertyTally schema properties inside location) := by
  match properties with
  | [] =>
      rw [convertFields, propertyTally]
      exact .plain 0 (.refl progress)
  | (name, slot) :: rest =>
      rw [convertFields, propertyTally]
      apply (accounts_convertSlot accounts slot _ progress within).andThen
      intro state below type
      exact (accounts_convertFields accounts schema rest _ location state _).mapOk
termination_by (sizeOf schema, 0, properties.length)
decreasing_by
  · exact Prod.Lex.left _ _ (inside (name, slot) (.head _))
  · exact Prod.Lex.right _ (Prod.Lex.right _ (Nat.lt_succ_self _))

end

end Walk

/-! ## Components -/

section Components

variable {progress start : Progress} {name : String} {id : TypeId}

theorem Progress.charges_begin (fresh : progress.isBound name = false) :
    progress.Charges (progress.begin name) [name] 0 {} := by
  have unbound : progress.registry.lookup? name = none := lookup?_eq_none_iff.mpr fresh
  refine ⟨?_, ?_, ?_⟩
  · simp [Progress.begin, reserve_of_fresh unbound, Registry.names]
  · simp [Progress.begin, reserve_of_fresh unbound]
  · simp [Progress.begin, Statistics.countNamedType, Statistics.charge]

theorem Progress.charges_bindAliases (progress : Progress) (id : TypeId) (names : List String) :
    ∃ aliases, progress.Charges (progress.bindAliases id names) [] aliases {} := by
  induction names generalizing progress with
  | nil => exact ⟨0, .refl progress⟩
  | cons name names induction =>
      rw [Progress.bindAliases]
      cases held : progress.registry.lookup? name with
      | some bound =>
          rw [bindAlias_of_bound (by simp [held])]
          exact induction progress
      | none =>
          rw [bindAlias_of_fresh held]
          have bound : progress.Charges
              ⟨{ progress.registry with bindings := progress.registry.bindings ++ [(name, id)] },
                progress.statistics.countAlias⟩ [] 1 {} := by
            refine ⟨?_, ?_, ?_⟩
            · simp [Registry.names]
            · simp
            · simp [Statistics.countAlias, Statistics.charge]
          rcases induction _ with ⟨aliases, charges⟩
          exact ⟨1 + aliases, bound.trans charges⟩

theorem accounts_finishChain (progress : Progress) (chain : List String) (id : TypeId) :
    Accounts (finishChain progress chain id : Conversion document progress TypeId) {} := by
  rcases progress.charges_bindAliases id chain with ⟨aliases, charges⟩
  exact .plain aliases charges

/-- The walk of the definition of a component is what registering the component comes to. -/
theorem accounts_complete {schema : Schema}
    (declared : document.schema? name = some (.inline schema))
    (fresh : start.isBound name = false)
    {walked : Conversion document (start.begin name) (Shape TypeId)}
    (walk : Accounts walked (shapeTally schema name))
    {finish : (progress : Progress) →
      unregistered document progress ≤ unregistered document (start.begin name) → Shape TypeId →
        Conversion document progress TypeId}
    (finishes : ∀ progress within shape,
      (finish progress within shape).state = progress.complete id schema.summary? shape)
    (within : unregistered document (walked.andThen finish).state ≤ unregistered document start) :
    Accounts (⟨(walked.andThen finish).value, (walked.andThen finish).state, within⟩ :
      Conversion document start TypeId) {} := by
  intro value success
  rcases walked with ⟨outcome, state, below⟩
  cases outcome with
  | error error => cases success
  | ok shape =>
      rcases walk shape rfl with ⟨added, aliases, total, charges, alike, _⟩
      have whole := (Progress.charges_begin fresh).trans charges
      have final : (Step.andThen ⟨.ok shape, state, below⟩ finish).state =
          state.complete id schema.summary? shape := finishes state below shape
      refine ⟨name :: added, 0 + aliases, {} ++ total, ?_, ?_, ?_⟩
      · rw [final]
        exact ⟨names_complete.trans whole.names, whole.bindings, whole.statistics⟩
      · rw [Document.componentTally_cons, Document.definitionTally, declared]
        simpa using alike
      · intro none
        cases none

theorem accounts_convertConcrete
    {convert : (progress : Progress) →
      unregistered document progress < unregistered document start → (name : String) →
        Conversion document progress TypeId}
    (converts : ∀ progress less name, Accounts (convert progress less name) {})
    {schema : Schema} (declared : document.schema? name = some (.inline schema))
    (fresh : start.isBound name = false) :
    Accounts (convertConcrete convert name schema declared fresh) {} := by
  unfold convertConcrete
  apply accounts_complete declared fresh
  · apply accounts_convertShape
    intro progress within path location
    dsimp only
    split
    · exact .fail _
    · exact converts progress _ _
  · intro progress within shape
    rfl

theorem accounts_convertNamed (document : Document) (start : Progress) (name : String) :
    Accounts (convertNamed document start name) {} := by
  rw [convertNamed]
  split
  next => exact .plain 0 (.refl start)
  next unbound =>
    have converts : ∀ progress
        (less : unregistered document progress < unregistered document start) name,
        Accounts (convertNamed document progress name) {} :=
      fun progress less name => accounts_convertNamed document progress name
    split
    next => exact .fail _
    next schema found => exact accounts_convertConcrete converts found _
    next path reference =>
      split
      next => exact .fail _
      next chain id followed => exact accounts_finishChain start chain id
      next chain target schema declared fresh followed =>
        exact (accounts_convertConcrete converts declared fresh).andThen
          fun state _ id => accounts_finishChain state chain id
termination_by unregistered document start

theorem accounts_convertEach (document : Document) (progress : Progress) (names : List String) :
    Accounts (convertEach document progress names) {} := by
  induction names generalizing progress with
  | nil =>
      rw [convertEach]
      exact .plain 0 (.refl progress)
  | cons name names induction =>
      rw [convertEach]
      exact (accounts_convertNamed document progress name).andThen fun state _ _ => induction state

theorem accounts_resolveReference (document : Document) (progress : Progress)
    (path location : String) : Accounts (resolveReference document progress path location) {} := by
  unfold resolveReference
  split
  · exact .fail _
  · exact accounts_convertNamed document progress _

theorem accounts_convertSchema (document : Document) (progress : Progress) (slot : SchemaSlot)
    (location : String) :
    Accounts (convertSchema document progress slot location) (slotTally slot location) := by
  unfold convertSchema
  apply accounts_convertSlot
  intro progress _ path location
  exact accounts_resolveReference document progress path location

end Components

end ApiGraph
