import ApiGraph.Proofs.Conversion.Handlers
import ApiGraph.Proofs.Partition.Assignment

namespace ApiGraph

/-! # What the conversion of a document hands on

The registry and the statistics come from the components, and the operations add their handlers to
modules that hold nothing else. -/

open Converting ApiGraph.Partition

/-! ## Handlers by module -/

theorem typesOf_addHandler (modules : ModuleMap) (name other : String) (handler : Handler) :
    typesOf (addHandler modules name handler) other = typesOf modules other :=
  partOf_alter_of_kept { name := name } rfl fun _ => rfl

theorem handlersOf_addHandler (modules : ModuleMap) (name other : String) (handler : Handler) :
    handlersOf (addHandler modules name handler) other =
      if other = name then handlersOf modules name ++ [handler] else handlersOf modules other :=
  partOf_alter { name := name } rfl fun _ => rfl

/-- Operations with their handlers. -/
abbrev Handled := List (OperationEntry × Handler)

/-- The handlers of the operations that belong to a module. -/
def handlersFor (fallback : String) (handled : Handled) (name : String) : List Handler :=
  (handled.filter fun (entry, _) => entry.moduleName fallback == name).map Prod.snd

def addHandlers (fallback : String) (modules : ModuleMap) (handled : Handled) : ModuleMap :=
  handled.foldl (fun modules (entry, handler) =>
    addHandler modules (entry.moduleName fallback) handler) modules

section Modules

variable {fallback name : String} {modules : ModuleMap} {handled : Handled}

theorem value?_addHandler_isSome {other : String} {handler : Handler} :
    ((addHandler modules name handler).value? other).isSome ↔
      other = name ∨ (modules.value? other).isSome := by
  rw [addHandler, NameMap.value?_alter]
  by_cases equal : other = name
  · simp [equal]
  · simp [equal]

theorem named_addHandlers (named : modules.Named) :
    ModuleMap.Named (addHandlers fallback modules handled) := by
  induction handled generalizing modules with
  | nil => exact named
  | cons pair rest induction => exact induction (named.alter fun _ => rfl)

theorem typesOf_addHandlers :
    typesOf (addHandlers fallback modules handled) name = typesOf modules name := by
  induction handled generalizing modules with
  | nil => rfl
  | cons pair rest induction =>
      rw [addHandlers, List.foldl_cons]
      exact induction.trans (typesOf_addHandler _ _ _ _)

theorem handlersOf_addHandlers :
    handlersOf (addHandlers fallback modules handled) name =
      handlersOf modules name ++ handlersFor fallback handled name := by
  induction handled generalizing modules with
  | nil => rw [handlersFor, List.filter_nil, List.map_nil, List.append_nil]; rfl
  | cons pair rest induction =>
      rcases pair with ⟨entry, handler⟩
      rw [addHandlers, List.foldl_cons]
      refine induction.trans ?_
      rw [handlersOf_addHandler, handlersFor, handlersFor]
      by_cases equal : name = entry.moduleName fallback
      · simp [equal]
      · have different : entry.moduleName fallback ≠ name := Ne.symm equal
        simp [equal, different]

/-- Modules are made for the operations that belong to them. -/
theorem value?_addHandlers_isSome :
    ((addHandlers fallback modules handled).value? name).isSome ↔
      (modules.value? name).isSome ∨ ∃ pair ∈ handled, pair.1.moduleName fallback = name := by
  induction handled generalizing modules with
  | nil => simp [addHandlers]
  | cons pair rest induction =>
      rcases pair with ⟨entry, handler⟩
      rw [addHandlers, List.foldl_cons]
      refine induction.trans ?_
      rw [value?_addHandler_isSome, List.exists_mem_cons_iff, or_assoc, or_left_comm,
        eq_comm (a := name)]

end Modules

/-! ## All operations -/

/-- Every operation has the handler that it is translated to. -/
structure Handles (document : Document) (registry : Registry) (entries : List OperationEntry)
    (handled : Handled) : Prop where
  entries : handled.map Prod.fst = entries
  translates : ∀ pair ∈ handled, pair.2.Translates document registry pair.1

theorem performs_convertOperations {document : Document} {registry : Registry}
    (complete : registry.Complete document) (fallback : String) (modules : ModuleMap)
    (entries : List OperationEntry) :
    Performs registry (convertOperations document fallback modules entries) fun result tally =>
      (∃ handled, Handles document registry entries handled ∧
        result = addHandlers fallback modules handled) ∧
      tally = .sum (entries.map document.operationTally) := by
  induction entries generalizing modules with
  | nil =>
      rw [convertOperations_nil]
      exact .pure ⟨⟨[], ⟨rfl, by simp⟩, rfl⟩, rfl⟩
  | cons entry rest induction =>
      rw [convertOperations_cons]
      refine (performs_convertOperation complete entry).bind fun handler _ holds => ?_
      rcases holds with ⟨translates, rfl⟩
      apply (induction _).mono
      intro result tally holds
      rcases holds with ⟨⟨handled, handles, rfl⟩, rfl⟩
      refine ⟨⟨(entry, handler) :: handled, ⟨?_, ?_⟩, rfl⟩, rfl⟩
      · rw [List.map_cons, handles.entries]
      · exact List.forall_mem_cons.mpr ⟨translates, handles.translates⟩

/-- What a document is converted to, apart from what its components are. -/
structure Converted (document : Document) (fallback : String) (modules : ModuleMap)
    (progress : Progress) : Prop where
  components : (convertComponents document {}).value = .ok ()
  registry : progress.registry = (convertComponents document {}).state.registry
  handled : ∃ handled, Handles document progress.registry document.operations handled ∧
    modules = addHandlers fallback .empty handled
  statistics : progress.statistics = (convertComponents document {}).state.statistics.charge 0 0
    (.sum (document.operations.map document.operationTally))

theorem Converted.named {document : Document} {fallback : String} {modules : ModuleMap}
    {progress : Progress} (converted : Converted document fallback modules progress) :
    modules.Named := by
  rcases converted.handled with ⟨handled, _, rfl⟩
  exact named_addHandlers ModuleMap.named_empty

theorem converted_of_success {document : Document} {fallback : String} {modules : ModuleMap}
    {progress : Progress}
    (success : (convertDocument document fallback).run {} = (.ok modules, progress)) :
    Converted document fallback modules progress := by
  have result : ((convertDocument document fallback).run {}).1 = .ok modules := by rw [success]
  have final : ((convertDocument document fallback).run {}).2 = progress := by rw [success]
  rw [convertDocument_eq, run_bind] at result final
  have value : ((Converting.ofStep (convertComponents document)).run {}).1 =
      (convertComponents document {}).value := rfl
  have state : ((Converting.ofStep (convertComponents document)).run {}).2 =
      (convertComponents document {}).state := rfl
  rw [value, state] at result final
  cases components : (convertComponents document {}).value with
  | error error =>
      rw [components] at result
      cases result
  | ok _ =>
      rw [components] at result final
      rcases performs_convertOperations (complete_convertComponents components) fallback .empty
        document.operations _ modules result with ⟨_, operations, handled, rfl⟩
      simp only [operations] at final
      subst final
      exact ⟨components, rfl, handled, rfl⟩

/-! ## What the components come to -/

theorem statistics_convertComponents {document : Document}
    (converted : (convertComponents document {}).value = .ok ()) :
    ∃ aliases total,
      (convertComponents document {}).state.registry.bindings.length =
        (convertComponents document {}).state.registry.names.length + aliases ∧
      total.Alike
        (document.componentTally (convertComponents document {}).state.registry.names) ∧
      (convertComponents document {}).state.statistics =
        ({} : Statistics).charge (convertComponents document {}).state.registry.names.length
          aliases total := by
  rcases accounts_convertEach document {} _ () converted with
    ⟨added, aliases, total, charges, alike, _⟩
  have names : (convertComponents document {}).state.registry.names = added := charges.names
  rw [names]
  refine ⟨aliases, total, ?_, ?_, charges.statistics⟩
  · have bindings : (convertComponents document {}).state.registry.bindings.length =
        0 + added.length + aliases := charges.bindings
    rw [bindings, Nat.zero_add]
  · simpa using alike

/-- What a document comes to. -/
theorem Converted.exists_total {document : Document} {fallback : String} {grouped : ModuleMap}
    {progress : Progress} (converted : Converted document fallback grouped progress) :
    ∃ aliases total,
      progress.registry.bindings.length = progress.registry.names.length + aliases ∧
      total.Alike (document.componentTally progress.registry.names) ∧
      progress.statistics = ({} : Statistics).charge progress.registry.names.length aliases
        (total ++ .sum (document.operations.map document.operationTally)) := by
  rcases statistics_convertComponents converted.components with
    ⟨aliases, total, bindings, alike, statistics⟩
  rw [← converted.registry] at bindings alike statistics
  refine ⟨aliases, total, bindings, alike, ?_⟩
  rw [converted.statistics, statistics, Statistics.charge_charge, Nat.add_zero, Nat.add_zero]

end ApiGraph
