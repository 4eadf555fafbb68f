import ApiGraph.Proofs.Conversion.History

namespace ApiGraph

/-! # Converters that have nothing left to register

Once the components have been converted, whatever a converter is asked for finds the names that it
refers to bound, those of other names for types included. From then on only counts and warnings are
added, and it does not matter whether the requests succeed, whether their schemas and operations are
parts of the document, or what was asked for before. -/

open Registry

/-! ## Requests -/

/-- What a converter is used for: calls, and the conversion of operations. -/
inductive Request where
  | call (call : Call)
  | operation (entry : OperationEntry)

namespace Document

variable (document : Document)

/-- The state that a request leaves behind, whatever comes of it. -/
def serve (progress : Progress) : Request → Progress
  | .call call => (call.perform document progress).2
  | .operation entry => ((convertOperation document entry).run progress).2

def serveAll (progress : Progress) : List Request → Progress
  | [] => progress
  | request :: requests => serveAll (document.serve progress request) requests

end Document

section Requests

variable {document : Document} {start progress : Progress}

theorem faithful_serve (request : Request) (faithful : progress.registry.Faithful document) :
    (document.serve progress request).registry.Faithful document := by
  cases request with
  | call call =>
      rcases call.exists_yields faithful with ⟨step, _, performed, yields⟩
      rw [Document.serve, performed]
      exact yields.faithful
  | operation entry =>
      exact (keeps_convertOperation (maintains_faithful document) entry progress faithful).1

theorem faithful_serveAll (requests : List Request)
    (faithful : progress.registry.Faithful document) :
    (document.serveAll progress requests).registry.Faithful document := by
  induction requests generalizing progress with
  | nil => exact faithful
  | cons request requests induction => exact induction (faithful_serve request faithful)

/-! ## What is only counted -/

/-- The second state has counted more than the first one and has registered nothing. -/
def Progress.OnlyCounts (before after : Progress) : Prop :=
  ∃ total, after = ⟨before.registry, before.statistics.charge 0 0 total⟩

namespace Progress.OnlyCounts

theorem refl (progress : Progress) : progress.OnlyCounts progress :=
  ⟨{}, by rw [Statistics.charge_nothing]⟩

theorem trans {before middle after : Progress} (first : before.OnlyCounts middle)
    (next : middle.OnlyCounts after) : before.OnlyCounts after := by
  rcases first with ⟨total, rfl⟩
  rcases next with ⟨more, rfl⟩
  exact ⟨total ++ more, by rw [Statistics.charge_charge]⟩

theorem registry_eq {before after : Progress} (counts : before.OnlyCounts after) :
    after.registry = before.registry := by
  rcases counts with ⟨total, rfl⟩
  rfl

theorem warn (progress : Progress) (warning : Warning) :
    progress.OnlyCounts (progress.warn warning) :=
  ⟨{ warnings := [warning] }, rfl⟩

theorem countHandler (progress : Progress) : progress.OnlyCounts progress.countHandler :=
  ⟨{ handlers := 1 }, by
    simp [Progress.countHandler, Statistics.countHandler, Statistics.charge]⟩

end Progress.OnlyCounts

/-- A call that could register a type would begin the walk of a definition, and the names of all
definitions are taken. -/
theorem Call.onlyCounts (covers : progress.registry.Covers document) (call : Call) :
    progress.OnlyCounts (call.perform document progress).2 := by
  have records : progress.Records (call.perform document progress).2
      (Frame.walks document ⟨call, progress⟩) :=
    Frame.records ⟨call, progress⟩ fun _ => covers.faithful.lt_size_of_mem_pending
  rcases call.exists_yields covers.faithful with ⟨step, _, performed, yields⟩
  have state : (call.perform document progress).2 = step.state := by rw [performed]; rfl
  rw [state] at records ⊢
  have nodes := covers.nodes_eq yields.grows yields.faithful
  have bindings := covers.bindings_eq yields.grows yields.faithful
  have noWalks : Frame.walks document ⟨call, progress⟩ = [] := by
    have size := records.size_eq
    rw [Registry.size, Registry.size, nodes] at size
    exact List.length_eq_zero_iff.mp (Nat.left_eq_add.mp size)
  rw [noWalks] at records
  have registry : step.state.registry = progress.registry := by
    apply covers.eq_of_extends yields.grows yields.faithful
    exact records.pending.trans (List.append_nil _)
  rcases records.charges with ⟨aliases, total, charges⟩
  have noAliases : aliases = 0 := by
    have lengths : _ = _ + 0 + aliases := charges.bindings
    rw [bindings] at lengths
    omega
  have statistics := charges.statistics
  rw [noAliases] at statistics
  refine ⟨total, ?_⟩
  rw [← registry]
  exact congrArg (Progress.mk _) statistics

/-- An operation converts schemas, warns and is counted, and that is all. -/
theorem maintains_onlyCounts (covers : start.registry.Covers document) :
    document.Maintains start.OnlyCounts where
  converts progress slot location counts := by
    have same : progress.registry.Covers document := counts.registry_eq ▸ covers
    exact counts.trans (Call.onlyCounts same (.type slot location))
  warns progress warning counts := counts.trans (.warn progress warning)
  counts progress counts := counts.trans (.countHandler progress)

theorem onlyCounts_serve (covers : progress.registry.Covers document) (request : Request) :
    progress.OnlyCounts (document.serve progress request) := by
  cases request with
  | call call => exact Call.onlyCounts covers call
  | operation entry =>
      exact (keeps_convertOperation (maintains_onlyCounts covers) entry progress (.refl progress)).1

theorem onlyCounts_serveAll (covers : progress.registry.Covers document)
    (requests : List Request) : progress.OnlyCounts (document.serveAll progress requests) := by
  induction requests generalizing progress with
  | nil => exact .refl progress
  | cons request requests induction =>
      have first := onlyCounts_serve covers request
      exact first.trans (induction (first.registry_eq ▸ covers))

/-- After the components have been converted no name is left, even if errors came before. -/
theorem covers_convertComponents (faithful : progress.registry.Faithful document)
    (converted : (convertComponents document progress).value = .ok ()) :
    (convertComponents document progress).state.registry.Covers document := by
  have yields := yields_convertEach document progress (Entries.names document.components.schemas)
    faithful
  exact ⟨yields.faithful, yields.means converted⟩

end Requests

end ApiGraph
