import ApiGraph.Proofs.Dependency.Search

namespace ApiGraph

/-! Closing a group. Once everything that a type leads to has been explored, and nothing that was
discovered since refers to a type opened before it, the types opened from it on are a whole group,
and emitting them keeps the invariant of the search. -/

namespace Search

/-- The situation in which the group of `root` is closed: `newer` has been opened since, `older` was
open before. -/
structure Closing (graph : TypeGraph) (active : List TypeId) (root : TypeId)
    (newer older : List TypeId) (search : Search) : Prop where
  invariant : Invariant graph (root :: active) search
  split : search.stack = newer ++ root :: older
  activeOlder : ∀ id ∈ active, id ∈ older
  anchoredOlder : ∀ id ∈ older, ∃ anchor ∈ active, graph.Reaches id anchor
  rootExplored : ∀ target, graph.Refers root target → target ∈ search.discovered
  enclosed : ∀ source ∈ root :: newer, ∀ target ∈ older, ¬ graph.Refers source target

namespace Closing

variable {graph : TypeGraph} {active : List TypeId} {root : TypeId} {newer older : List TypeId}
variable {search : Search}

section Group

variable (closing : Closing graph active root newer older search)

include closing

theorem mem_stack_iff (id : TypeId) : id ∈ search.stack ↔ id ∈ root :: newer ∨ id ∈ older := by
  rw [closing.split]
  simp only [List.mem_append, List.mem_cons]
  constructor
  · intro holds
    rcases holds with isNewer | isRoot | isOlder
    · exact .inl (.inr isNewer)
    · exact .inl (.inl isRoot)
    · exact .inr isOlder
  · intro holds
    rcases holds with (isRoot | isNewer) | isOlder
    · exact .inr (.inl isRoot)
    · exact .inl isNewer
    · exact .inr (.inr isOlder)

theorem nodup_stack (nodup : graph.vertices.Nodup) : (newer ++ root :: older).Nodup := by
  have stackNodup := (List.nodup_append.mp (closing.invariant.nodup_settled nodup)).1
  rw [closing.split] at stackNodup
  exact stackNodup

theorem root_notMem_newer (nodup : graph.vertices.Nodup) : root ∉ newer := fun member =>
  (List.nodup_append.mp (closing.nodup_stack nodup)).2.2 root member root List.mem_cons_self rfl

theorem notMem_older (nodup : graph.vertices.Nodup) {id : TypeId} (member : id ∈ root :: newer) :
    id ∉ older := by
  intro isOlder
  have parts := List.nodup_append.mp (closing.nodup_stack nodup)
  rcases List.mem_cons.mp member with equal | isNewer
  · exact (List.nodup_cons.mp parts.2.1).1 (equal ▸ isOlder)
  · exact parts.2.2 id isNewer id (List.mem_cons_of_mem _ isOlder) rfl

/-- What the group refers to is in the group or emitted already. -/
theorem settled (nodup : graph.vertices.Nodup) (source : TypeId) (member : source ∈ root :: newer)
    (target : TypeId) (edge : graph.Refers source target) :
    target ∈ search.emitted.order ∨ target ∈ root :: newer := by
  have known : target ∈ search.discovered := by
    by_cases isRoot : source = root
    · exact closing.rootExplored target (isRoot ▸ edge)
    · have isOpen := (closing.mem_stack_iff source).mpr (.inl member)
      have passive : source ∉ root :: active := by
        intro isActive
        have inActive := (List.mem_cons.mp isActive).resolve_left isRoot
        exact closing.notMem_older nodup member (closing.activeOlder source inActive)
      exact closing.invariant.explored source isOpen passive target edge
  rcases (closing.invariant.mem_discovered_iff target).mp known with isOpen | emitted
  · rcases (closing.mem_stack_iff target).mp isOpen with inGroup | isOlder
    · exact .inr inGroup
    · exact absurd edge (closing.enclosed source member target isOlder)
  · exact .inl emitted

/-- A path out of the group ends in the group or at an emitted type. -/
theorem reaches_settled (nodup : graph.vertices.Nodup) {source target : TypeId}
    (member : source ∈ root :: newer) (path : graph.Reaches source target) :
    target ∈ search.emitted.order ∨ target ∈ root :: newer := by
  refine path.stays (fun id => id ∈ search.emitted.order ∨ id ∈ root :: newer) ?_ (.inr member)
  intro source target inside edge
  rcases inside with emitted | inGroup
  · exact .inl (closing.invariant.order_closed source target emitted edge)
  · exact closing.settled nodup source inGroup target edge

theorem root_reaches (id : TypeId) (member : id ∈ root :: newer) : graph.Reaches root id := by
  rcases List.mem_cons.mp member with equal | isNewer
  · exact equal ▸ .refl
  · have ascending := closing.invariant.ascending
    rw [closing.split] at ascending
    exact (List.pairwise_append.mp ascending).2.2 id isNewer root List.mem_cons_self

theorem reaches_root (nodup : graph.vertices.Nodup) (id : TypeId) (member : id ∈ root :: newer) :
    graph.Reaches id root := by
  have isOpen := (closing.mem_stack_iff id).mpr (.inl member)
  rcases closing.invariant.anchored id isOpen with ⟨anchor, isActive, path⟩
  rcases List.mem_cons.mp isActive with equal | isActive
  · exact equal ▸ path
  · exfalso
    have isOlder := closing.activeOlder anchor isActive
    have anchorOpen := (closing.mem_stack_iff anchor).mpr (.inr isOlder)
    rcases closing.reaches_settled nodup member path with emitted | inGroup
    · exact closing.invariant.notMem_order nodup anchorOpen emitted
    · exact closing.notMem_older nodup inGroup isOlder

theorem mem_group_iff (nodup : graph.vertices.Nodup) (id : TypeId) :
    id ∈ root :: newer ↔ graph.Mutual root id := by
  constructor
  · intro member
    exact ⟨closing.root_reaches id member, closing.reaches_root nodup id member⟩
  · intro holds
    rcases holds with ⟨there, back⟩
    rcases closing.reaches_settled nodup List.mem_cons_self there with emitted | inGroup
    · exfalso
      have rootEmitted := back.stays (· ∈ search.emitted.order)
        (fun source target => closing.invariant.order_closed source target) emitted
      have rootOpen := (closing.mem_stack_iff root).mpr (.inl List.mem_cons_self)
      exact closing.invariant.notMem_order nodup rootOpen rootEmitted
    · exact inGroup

theorem isGroup (nodup : graph.vertices.Nodup) : graph.IsGroup (root :: newer.reverse) where
  nonempty := List.cons_ne_nil _ _
  mem_iff := by
    have sameMembers : ∀ id, id ∈ root :: newer.reverse ↔ graph.Mutual root id := by
      intro id
      rw [← closing.mem_group_iff nodup]
      simp
    intro member inside other
    have home := (sameMembers member).mp inside
    rw [sameMembers]
    exact ⟨fun both => home.symm.trans both, fun both => home.trans both⟩

end Group

/-! ## Emitting the group -/

section Emit

variable (closing : Closing graph active root newer older search)

include closing

theorem ne_root (nodup : graph.vertices.Nodup) : ∀ id ∈ newer, (id != root) = true := by
  intro id member
  rw [bne_iff_ne]
  exact fun equal => closing.root_notMem_newer nodup (equal ▸ member)

theorem groupOf_eq (nodup : graph.vertices.Nodup) :
    search.groupOf root = root :: newer.reverse := by
  rw [groupOf, closing.split, List.takeWhile_append_of_pos (closing.ne_root nodup)]
  simp

theorem stack_emit (nodup : graph.vertices.Nodup) : (search.emit graph root).stack = older := by
  simp [emit, closing.split, List.dropWhile_append_of_pos (closing.ne_root nodup)]

theorem order_emit (nodup : graph.vertices.Nodup) :
    (search.emit graph root).emitted.order =
      search.emitted.order ++ (root :: newer.reverse) := by
  simp [emit, closing.groupOf_eq nodup]

theorem cycles_emit (nodup : graph.vertices.Nodup) :
    (search.emit graph root).emitted.cycles =
      search.emitted.cycles ++ [root :: newer.reverse].filter graph.isCycle := by
  have sameTest : (decide (1 < (root :: newer.reverse).length) || graph.hasLoop root) =
      graph.isCycle (root :: newer.reverse) := by
    cases newer with
    | nil => simp [TypeGraph.isCycle]
    | cons first rest => simp [TypeGraph.isCycle]
  simp only [emit, closing.groupOf_eq nodup, gt_iff_lt, sameTest]
  cases reported : graph.isCycle (root :: newer.reverse) with
  | true => simp [reported]
  | false => simp [reported]

theorem invariant_emit (nodup : graph.vertices.Nodup) :
    Invariant graph active (search.emit graph root) where
  placed := closing.invariant.placed
  settled := by
    rw [closing.stack_emit nodup, closing.order_emit nodup]
    refine List.Perm.trans ?_ closing.invariant.settled
    rw [closing.split, List.perm_iff_count]
    intro id
    simp only [List.count_append, List.count_cons, List.count_reverse]
    omega
  activeOpen := by
    rw [closing.stack_emit nodup]
    exact closing.activeOlder
  explored := by
    rw [closing.stack_emit nodup]
    intro source isOlder passive target edge
    have isOpen := (closing.mem_stack_iff source).mpr (.inr isOlder)
    refine closing.invariant.explored source isOpen ?_ target edge
    rw [List.mem_cons, not_or]
    exact ⟨fun equal => closing.notMem_older nodup List.mem_cons_self (equal ▸ isOlder), passive⟩
  ascending := by
    rw [closing.stack_emit nodup]
    have ascending := closing.invariant.ascending
    rw [closing.split] at ascending
    exact (List.pairwise_cons.mp (List.pairwise_append.mp ascending).2.1).2
  anchored := by
    rw [closing.stack_emit nodup]
    exact closing.anchoredOlder
  emission := by
    rcases closing.invariant.emission with ⟨groups, emission, order, cycles⟩
    refine ⟨groups ++ [root :: newer.reverse], ?_, ?_, ?_⟩
    · refine emission.emit (closing.isGroup nodup) ?_
      intro source member target edge
      have inGroup : source ∈ root :: newer := by simpa using member
      rw [← order]
      simpa using closing.settled nodup source inGroup target edge
    · rw [closing.order_emit nodup, order, List.flatten_append, List.flatten_singleton]
    · rw [closing.cycles_emit nodup, cycles, List.filter_append]

end Emit

end Closing

end Search

end ApiGraph
