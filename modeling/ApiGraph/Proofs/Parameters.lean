import ApiGraph.Proofs.Merging
import ApiGraph.Proofs.Related
import ApiGraph.Proofs.Resolution

namespace ApiGraph

/-! # The parameters of an operation

What is collected for an operation are the parameters of its path, overridden by its own, and nothing
at all where one of these does not resolve. -/

/-! ## Parameters that do not resolve -/

theorem exists_of_mapM_eq_error {α β ε : Type} {convert : α → Except ε β} {items : List α}
    {error : ε} (failure : items.mapM convert = .error error) :
    ∃ item ∈ items, convert item = .error error := by
  induction items with
  | nil =>
      rw [List.mapM_nil] at failure
      cases failure
  | cons item items induction =>
      rw [List.mapM_cons] at failure
      cases first : convert item with
      | error other =>
          rw [first] at failure
          cases failure
          exact ⟨item, List.mem_cons_self, first⟩
      | ok value =>
          rw [first] at failure
          cases rest : items.mapM convert with
          | error other =>
              have same : error = other := by
                rw [rest] at failure
                cases failure
                rfl
              rcases induction (same ▸ rest) with ⟨later, member, found⟩
              exact ⟨later, List.mem_cons_of_mem _ member, found⟩
          | ok values =>
              rw [rest] at failure
              cases failure

variable {document : Document} {entry : OperationEntry} {handler : String}

/-- The collection fails where a parameter fails to resolve, and in the same way. -/
theorem exists_of_collectParameters_eq_error {error : BuildError}
    (failure : collectParameters document entry handler = .error error) :
    ∃ item ∈ entry.pathItem.parameters ++ entry.operation.parameters,
      resolveComponent parameterArea document.components.parameters handler item =
        .error error := by
  unfold collectParameters at failure
  dsimp only at failure
  generalize taken : entry.pathItem.parameters.mapM
    (resolveComponent parameterArea document.components.parameters handler) = shared? at failure
  generalize also : entry.operation.parameters.mapM
    (resolveComponent parameterArea document.components.parameters handler) = own? at failure
  cases shared? with
  | error other =>
      cases failure
      rcases exists_of_mapM_eq_error taken with ⟨item, member, found⟩
      exact ⟨item, List.mem_append_left _ member, found⟩
  | ok shared =>
      cases own? with
      | error other =>
          cases failure
          rcases exists_of_mapM_eq_error also with ⟨item, member, found⟩
          exact ⟨item, List.mem_append_right _ member, found⟩
      | ok own => cases failure

/-- Where all parameters of an operation and of its path resolve, what is collected are the shared
ones, overridden by those of the operation. Otherwise nothing is collected, whichever parameter it is
that does not resolve. -/
theorem collectParameters_merges (document : Document) (entry : OperationEntry)
    (handler : String) :
    (∀ shared own, List.Forall₂ document.ResolvesParameter entry.pathItem.parameters shared →
        List.Forall₂ document.ResolvesParameter entry.operation.parameters own →
          ∃ merged, collectParameters document entry handler = .ok merged ∧
            Merges shared own merged) ∧
      ∀ item ∈ entry.pathItem.parameters ++ entry.operation.parameters,
        (∀ parameter, ¬document.ResolvesParameter item parameter) →
          ∃ path, collectParameters document entry handler =
            .error (.unresolvedReference path handler) := by
  constructor
  · intro shared own sharedResolve ownResolve
    refine ⟨own.foldl overrideParameter shared, ?_, merges_foldl_overrideParameter shared own⟩
    exact collectParameters_eq_ok_iff.mpr ⟨shared, own, sharedResolve, ownResolve, rfl⟩
  · intro item member unresolved
    cases outcome : collectParameters document entry handler with
    | ok merged =>
        rcases collectParameters_eq_ok_iff.mp outcome with ⟨shared, own, first, second, _⟩
        rcases exists_of_mem_left (List.rel_append first second) member with
          ⟨parameter, _, resolves⟩
        exact absurd resolves (unresolved parameter)
    | error error =>
        rcases exists_of_collectParameters_eq_error outcome with ⟨other, _, failure⟩
        rcases resolveComponent_error failure with ⟨path, _, _, rfl⟩
        exact ⟨path, rfl⟩

/-- Two parameters of one path have the same key, and two of the operation do. -/
def OperationEntry.pagedPets : OperationEntry where
  path := "/pets"
  method := .get
  pathItem := {
    parameters := [
      .inline { name := "page", location := .query },
      .inline { name := "page", location := .header },
      .inline { name := "page", location := .query, description := some "shadowed" }] }
  operation := {
    parameters := [
      .reference "#/components/parameters/Limit",
      .inline { name := "page", location := .query, description := some "from zero" },
      .inline { name := "limit", location := .query, description := some "at most ten" },
      .inline { name := "page", location := .query, description := some "from one" }] }

def Document.pagedShop : Document where
  components := { parameters := [("Limit", .inline { name := "limit", location := .query })] }

theorem collectParameters_merges_pagedPets :
    (∃ merged, collectParameters .pagedShop .pagedPets "listPets" = .ok merged ∧
      merged.map Parameter.key =
        [("page", .query), ("page", .header), ("page", .query), ("limit", .query)] ∧
      merged[0]?.bind Parameter.description = some "from one" ∧
      merged[2]?.bind Parameter.description = some "shadowed" ∧
      merged[3]?.bind Parameter.description = some "at most ten") ∧
    ∃ path, collectParameters {} .pagedPets "listPets" =
      .error (.unresolvedReference path "listPets") := by
  constructor
  · have shared : List.Forall₂ Document.pagedShop.ResolvesParameter
        OperationEntry.pagedPets.pathItem.parameters _ :=
      .cons (.inline _) (.cons (.inline _) (.cons (.inline _) .nil))
    have target : Pointer.component? "#/components/parameters/Limit" parameterArea =
        some "Limit" := by cbv
    have own : List.Forall₂ Document.pagedShop.ResolvesParameter
        OperationEntry.pagedPets.operation.parameters _ :=
      .cons (.reference target (.here rfl))
        (.cons (.inline _) (.cons (.inline _) (.cons (.inline _) .nil)))
    rcases (collectParameters_merges .pagedShop .pagedPets "listPets").1 _ _ shared own with
      ⟨merged, collected, merges⟩
    have keys : merged.map Parameter.key =
        [("page", .query), ("page", .header), ("page", .query), ("limit", .query)] := merges.keys
    have page := merges.overridden ("page", .query) (by decide)
    have limit := merges.overridden ("limit", .query) (by decide)
    have shadowed := merges.kept 2
    rw [keys] at page limit shadowed
    refine ⟨merged, collected, keys, ?_, ?_, ?_⟩
    · exact congrArg (Option.bind · Parameter.description) page
    · rw [shadowed (by decide)]
      rfl
    · exact congrArg (Option.bind · Parameter.description) limit
  · have member : .reference "#/components/parameters/Limit" ∈
        OperationEntry.pagedPets.pathItem.parameters ++
          OperationEntry.pagedPets.operation.parameters := List.mem_append_right _ (.head _)
    apply (collectParameters_merges {} .pagedPets "listPets").2 _ member
    intro parameter resolves
    cases resolves with
    | reference target leads => cases leads <;> contradiction

end ApiGraph
