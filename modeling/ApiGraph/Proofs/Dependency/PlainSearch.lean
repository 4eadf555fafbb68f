import ApiGraph.Proofs.Dependency.Groups
import ApiGraph.Step

namespace ApiGraph

/-! # A plain depth-first search

It knows neither open types nor groups, and only numbers the types: in the order in which it comes to
them, and in the order in which it is done with them. -/

structure PlainSearch where
  unvisited : List TypeId
  /-- The types in the order of their discovery. -/
  discovered : List TypeId := []
  /-- The types in the order in which everything that they refer to has been visited. -/
  finished : List TypeId := []

namespace PlainSearch

def left (search : PlainSearch) : Nat := search.unvisited.length

def discover (search : PlainSearch) (id : TypeId) : PlainSearch :=
  { search with
    unvisited := search.unvisited.erase id
    discovered := search.discovered ++ [id] }

def finish (search : PlainSearch) (id : TypeId) : PlainSearch :=
  { search with finished := search.finished ++ [id] }

theorem left_discover_lt {search : PlainSearch} {id : TypeId} (fresh : id ∈ search.unvisited) :
    (search.discover id).left < search.left := by
  have shorter := List.length_erase_of_mem fresh
  have positive := List.length_pos_of_mem fresh
  simp only [left, discover]
  omega

/-- Visit the targets one after the other, each with all that is met from it, unless it has been
visited before. -/
def explore (graph : TypeGraph) (targets : List TypeId) (search : PlainSearch) :
    Step left search Unit :=
  match targets with
  | [] => .pure search ()
  | target :: rest =>
      if fresh : target ∈ search.unvisited then
        have less := left_discover_lt fresh
        let inner := explore graph (graph.edges target) (search.discover target)
        have within : (inner.state.finish target).left ≤ search.left :=
          Nat.le_trans inner.within (Nat.le_of_lt less)
        (explore graph rest (inner.state.finish target)).weaken within
      else explore graph rest search
termination_by (search.left, targets.length)
decreasing_by
  · exact Prod.Lex.left _ _ less
  · exact Prod.Lex.left _ _ (Nat.lt_of_le_of_lt inner.within less)
  · exact Prod.Lex.right _ (Nat.lt_succ_self _)

/-- What is left behind by the visit of one type. -/
def visit (graph : TypeGraph) (id : TypeId) (search : PlainSearch) : PlainSearch :=
  (explore graph (graph.edges id) (search.discover id)).state.finish id

variable {graph : TypeGraph} {search : PlainSearch} {target : TypeId} {rest : List TypeId}

theorem explore_nil : (explore graph [] search).state = search := by
  rw [explore]
  rfl

theorem explore_fresh (fresh : target ∈ search.unvisited) :
    (explore graph (target :: rest) search).state =
      (explore graph rest (search.visit graph target)).state := by
  rw [explore, dif_pos fresh]
  rfl

theorem explore_visited (visited : target ∉ search.unvisited) :
    (explore graph (target :: rest) search).state = (explore graph rest search).state := by
  rw [explore, dif_neg visited]

/-! ## What is finished -/

/-- What was discovered since has been finished since. -/
def Settles (before after : PlainSearch) : Prop :=
  ∃ discovered finished, after.discovered = before.discovered ++ discovered ∧
    after.finished = before.finished ++ finished ∧ finished.Perm discovered

theorem Settles.refl (search : PlainSearch) : search.Settles search :=
  ⟨[], [], by simp, by simp, .nil⟩

theorem Settles.trans {first second third : PlainSearch} (left : first.Settles second)
    (right : second.Settles third) : first.Settles third := by
  rcases left with ⟨discovered, finished, found, done, perm⟩
  rcases right with ⟨later, laterFinished, foundLater, doneLater, laterPerm⟩
  refine ⟨discovered ++ later, finished ++ laterFinished, ?_, ?_, perm.append laterPerm⟩
  · rw [foundLater, found, List.append_assoc]
  · rw [doneLater, done, List.append_assoc]

theorem Settles.visit (inner : (search.discover target).Settles
      (explore graph (graph.edges target) (search.discover target)).state) :
    search.Settles (search.visit graph target) := by
  rcases inner with ⟨discovered, finished, found, done, perm⟩
  refine ⟨target :: discovered, finished ++ [target], ?_, ?_, ?_⟩
  · rw [PlainSearch.visit, finish, found, discover, List.append_assoc]
    rfl
  · rw [PlainSearch.visit, finish, done, discover, List.append_assoc]
  · exact (List.perm_append_singleton _ _).trans (perm.cons target)

theorem settles_explore (graph : TypeGraph) (targets : List TypeId) (search : PlainSearch) :
    search.Settles (explore graph targets search).state := by
  match targets with
  | [] =>
      rw [explore_nil]
      exact .refl search
  | target :: rest =>
      by_cases fresh : target ∈ search.unvisited
      · have less := left_discover_lt fresh
        have inner := settles_explore graph (graph.edges target) (search.discover target)
        have within : (search.visit graph target).left < search.left :=
          Nat.lt_of_le_of_lt (explore graph (graph.edges target) (search.discover target)).within
            less
        rw [explore_fresh fresh]
        exact (Settles.visit inner).trans (settles_explore graph rest _)
      · rw [explore_visited fresh]
        exact settles_explore graph rest search
termination_by (search.left, targets.length)
decreasing_by
  · exact Prod.Lex.left _ _ less
  · exact Prod.Lex.left _ _ within
  · exact Prod.Lex.right _ (Nat.lt_succ_self _)

end PlainSearch

/-- The plain search of a whole graph. -/
def TypeGraph.plainSearch (graph : TypeGraph) : PlainSearch :=
  (PlainSearch.explore graph graph.vertices { unvisited := graph.vertices }).state

theorem TypeGraph.plainSearch_finished (graph : TypeGraph) :
    graph.plainSearch.finished.Perm graph.plainSearch.discovered := by
  rcases PlainSearch.settles_explore graph graph.vertices { unvisited := graph.vertices } with
    ⟨discovered, finished, found, done, perm⟩
  rw [plainSearch, found, done]
  exact perm

end ApiGraph
