import ApiGraph.Proofs.Build
import ApiGraph.Proofs.Ownership
import ApiGraph.Proofs.Renumbering.Partition

namespace ApiGraph

/-! # One assignment more or less

An entry of the configuration speaks for the type that its key stands for and for no other. What the
other types are given by the configuration, and what handlers reach, does not depend on it; so one
entry can be added, changed or taken away, and only one type can move. -/

open ApiGraph.Partition

/-- The second configuration is the first one with an entry for a key added, changed or taken
away. -/
structure Config.DiffersAt (config : Config) (key : String) (changed : Config) : Prop where
  fallbackModule : changed.fallbackModule = config.fallbackModule
  pageIndexCandidates : changed.pageIndexCandidates = config.pageIndexCandidates
  pageSizeCandidates : changed.pageSizeCandidates = config.pageSizeCandidates
  others : ∀ other, other ≠ key →
    changed.typeModules.value? other = config.typeModules.value? other

namespace Config.DiffersAt

variable {config changed : Config} {key : String}

theorem symm (differs : config.DiffersAt key changed) : changed.DiffersAt key config where
  fallbackModule := differs.fallbackModule.symm
  pageIndexCandidates := differs.pageIndexCandidates.symm
  pageSizeCandidates := differs.pageSizeCandidates.symm
  others other different := (differs.others other different).symm

/-- An assignment makes an entry or replaces the one that there is. -/
theorem assign (config : Config) (key module : String) :
    config.DiffersAt key (config.assign key module) where
  fallbackModule := rfl
  pageIndexCandidates := rfl
  pageSizeCandidates := rfl
  others other different := by
    rw [Config.assign, NameMap.value?_put, if_neg different]

/-- A type that the key does not stand for is given to the same modules. -/
theorem assigns_iff (differs : config.DiffersAt key changed) {registry : Registry} {id : TypeId}
    (apart : registry.lookup? key ≠ some id) (name module : String) :
    changed.Assigns registry name module id ↔ config.Assigns registry name module id := by
  simp only [Config.Assigns, NameMap.mem_entries_iff]
  by_cases same : name = key
  · rw [same]
    exact ⟨fun holds => absurd holds.2 apart, fun holds => absurd holds.2 apart⟩
  · rw [differs.others name same]

end Config.DiffersAt

/-- The owner of a type depends only on the entries of the configuration that stand for the type. -/
theorem Partition.moduleOf?_assigned_eq {config changed : Config} {start : Partition} {id : TypeId}
    (unowned : start.registry.moduleOf? id = none)
    (same : ∀ key module, changed.Assigns start.registry key module id ↔
      config.Assigns start.registry key module id) :
    (assigned changed start).registry.moduleOf? id =
      (assigned config start).registry.moduleOf? id := by
  rcases exists_grants config start with ⟨_, first⟩
  rcases exists_grants changed start with ⟨_, second⟩
  by_cases registered : id < start.registry.size
  · have owns (owner : Option String) : Owns changed start id owner ↔ Owns config start id owner := by
      cases owner <;> simp only [Owns, same]
    exact ((owns _).mp (owns_assigned registered unowned)).unique (owns_assigned registered unowned)
  · rw [first.moduleOf?_of_unregistered registered, second.moduleOf?_of_unregistered registered]

/-- With an entry of the configuration added, changed or taken away a document can be built as
before. The types, their order and their cycles are the same, and so are the handlers of every
module. All types but the one that the key of the entry stands for keep their modules, and without
that one the modules list the same types in the same order. -/
theorem build_reassigned {document : Document} {config changed : Config} {key : String}
    {before : Build} (differs : config.DiffersAt key changed)
    (built : build document config = .ok before) :
    ∃ after, build document changed = .ok after ∧
      after.registry.withoutModules = before.registry.withoutModules ∧
      after.order = before.order ∧
      (∀ name, handlersOf after.modules name = handlersOf before.modules name) ∧
      (∀ id, before.registry.lookup? key ≠ some id →
        after.registry.moduleOf? id = before.registry.moduleOf? id) ∧
      ∀ name,
        (typesOf after.modules name).filter (fun id =>
            decide (before.registry.lookup? key ≠ some id)) =
          (typesOf before.modules name).filter fun id =>
            decide (before.registry.lookup? key ≠ some id) := by
  rcases exists_converts_of_build built with ⟨progress, grouped, converts⟩
  rcases arises_of_converts converts with ⟨same, rebuilt, arises⟩
  rw [built] at rebuilt
  cases rebuilt
  -- The conversion sees of a configuration only the module of operations without a tag.
  rw [← differs.fallbackModule] at converts
  rcases arises_of_converts converts with ⟨after, rebuilt, rises⟩
  have order : after.order = before.order := by rw [rises.order, arises.order]
  have owners : ∀ id, before.registry.lookup? key ≠ some id →
      after.registry.moduleOf? id = before.registry.moduleOf? id := by
    intro id apart
    rw [arises.lookup?] at apart
    rw [rises.registry, arises.registry]
    exact moduleOf?_assigned_eq (arises.converted.unowned id) (differs.assigns_iff apart)
  refine ⟨after, rebuilt, ?_, order, ?_, owners, ?_⟩
  · rw [rises.types, arises.types]
  · intro name
    rw [rises.handlersOf_eq, arises.handlersOf_eq]
  · intro name
    rw [rises.typesOf_eq, arises.typesOf_eq, order, List.filter_filter, List.filter_filter]
    apply List.filter_congr
    intro id _
    by_cases apart : before.registry.lookup? key = some id
    · simp [apart]
    · rw [owners id apart]

/-- The pet shop hands its pets, which nothing was configured for, to a module that is first in the
order of names, and takes them back. -/
theorem build_reassigned_openPetShop :
    Config.petShop.DiffersAt "Pet" (Config.petShop.assign "Pet" "animals") ∧
      ∃ before after, build .openPetShop .petShop = .ok before ∧
        build .openPetShop (Config.petShop.assign "Pet" "animals") = .ok after ∧
        after.order = before.order ∧
        (∀ id, before.registry.lookup? "Pet" ≠ some id →
          after.registry.moduleOf? id = before.registry.moduleOf? id) ∧
        ∃ again, build .openPetShop .petShop = .ok again ∧ again.order = after.order := by
  have differs := Config.DiffersAt.assign .petShop "Pet" "animals"
  rcases openPetShop_builds with ⟨before, built⟩
  rcases build_reassigned differs built with ⟨after, rebuilt, _, order, _, owners, _⟩
  rcases build_reassigned differs.symm rebuilt with ⟨again, restored, _, same, _⟩
  exact ⟨differs, before, after, built, rebuilt, order, owners, again, restored, same⟩

end ApiGraph
