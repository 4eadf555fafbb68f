import ApiGraph.Proofs.Checked.Operation
import ApiGraph.Proofs.Checked.Report

namespace ApiGraph

/-! # Builds with checked accesses

Numbers are made while the types are still being converted and kept in what outlives a conversion that
was broken off. Every later phase relies on them without a check: the order, the partition, the pages
and the report. Here all of these are run with checks, and none of the checks fails. -/

namespace Checked

def cycleNames (registry : Registry) (order : DependencyOrder) : Option (List (List String)) :=
  order.cycles.mapM fun cycle => cycle.mapM (nameOf registry)

def build (document : Document) (config : Config) : Option (Except BuildError Build) := do
  let (converted, progress) ← (convertDocument document config.fallbackModule).run {}
  match converted with
  | .error error => return .error error
  | .ok modules =>
      let order ← dependencyOrder progress.registry
      let cycles ← cycleNames progress.registry order
      let statistics := progress.statistics.recordCycles cycles
      let partition ← partitionTypes config order ⟨progress.registry, modules, statistics⟩
      return .ok {
        info := document.info
        config := config
        registry := partition.registry
        modules := partition.modules
        order := order
        statistics := partition.statistics }

/-- The report of a build, where it succeeds. -/
def buildReport (document : Document) (config : Config) : Option (Except BuildError Report) := do
  match ← build document config with
  | .error error => return .error error
  | .ok result => return .ok (← report result)

/-! ## No access fails -/

theorem cycleNames_eq {registry : Registry} (closed : registry.IsClosed) :
    cycleNames registry registry.dependencyOrder =
      some (registry.cycleNames registry.dependencyOrder) :=
  mapM_eq_some fun _ reported => mapM_eq_some fun id inside =>
    nameOf_eq (closed.registers_cycle reported id inside)

theorem build_eq (document : Document) (config : Config) :
    build document config = some (ApiGraph.build document config) := by
  have supplies : Supplies document [] _ _ _ := supplies_convertDocument config.fallbackModule
  rcases supplies {} (Registry.faithful_empty document) (fun _ member => by cases member) with
    ⟨succeeds, done⟩
  rw [build, ApiGraph.build, succeeds]
  generalize (ApiGraph.convertDocument document config.fallbackModule).run {} = outcome at done
  rcases outcome with ⟨converted, progress⟩
  cases converted with
  | error error => rfl
  | ok modules =>
      have bounds := done.faithful.inBounds
      have closed := bounds.closed
      simp only [Option.bind_eq_bind, Option.bind_some, dependencyOrder_eq closed,
        cycleNames_eq closed]
      rw [partitionTypes_eq config progress.registry.dependencyOrder]
      · rfl
      · exact bounds

end Checked

theorem Build.inBounds {document : Document} {config : Config} {result : Build}
    (built : build document config = .ok result) : result.InBounds := by
  rcases exists_arises built with ⟨progress, grouped, arises⟩
  exact arises.inBounds

/-- No number dangles and no access fails, however long a converter was used before and whatever
came of it: what is bound to a name, still open, mentioned inside a type at any depth or handed out in
a result is registered, every type has a rank when it is asked for, and a type whose group is emitted
is on the stack. So a build always comes to its result, and then to its report. -/
theorem build_inBounds (document : Document) (config : Config) :
    (∀ requests, let progress := document.serveAll {} requests
      Checked.serveAll document {} requests = some progress ∧
        progress.registry.InBounds ∧
        progress.registry.Registers (document.handedOutByAll {} requests) ∧
        Checked.dependencyOrder progress.registry = some progress.registry.dependencyOrder) ∧
      Checked.build document config = some (build document config) ∧
      (∀ result, build document config = .ok result → result.InBounds) ∧
      Checked.buildReport document config = some ((build document config).map Build.report) := by
  refine ⟨?_, Checked.build_eq document config, fun _ built => Build.inBounds built, ?_⟩
  · intro requests progress
    have initial : (Progress.registry {}).Faithful document := Registry.faithful_empty document
    have bounds := (faithful_serveAll requests initial).inBounds
    rcases serveAll_spec requests initial with ⟨succeeds, _, registers⟩
    exact ⟨succeeds, bounds, registers, Checked.dependencyOrder_eq bounds.closed⟩
  · rw [Checked.buildReport, Checked.build_eq]
    cases built : build document config with
    | error error => rfl
    | ok result =>
        have reported := Checked.report_eq (Build.inBounds built)
        simp only [Option.bind_eq_bind, Option.bind_some, reported]
        rfl

theorem build_inBounds_openPetShop :
    ∃ result, build .openPetShop .petShop = .ok result ∧ result.InBounds ∧
      Checked.buildReport .openPetShop .petShop = some (.ok result.report) := by
  rcases openPetShop_builds with ⟨result, built⟩
  rcases build_inBounds .openPetShop .petShop with ⟨_, _, bounds, reported⟩
  rw [built] at reported
  exact ⟨result, built, bounds result built, reported⟩

end ApiGraph
