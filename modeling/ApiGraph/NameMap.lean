import ApiGraph.Entries

namespace ApiGraph

universe u

/-! Named values in the order of their names. Names are ordered by code points. The map carries the
proof that its names increase, so that two maps with the same values are the same list. -/

structure NameMap (α : Type u) where
  entries : Entries α := []
  increasing : entries.Pairwise (fun left right => left.1 < right.1) := by exact .nil

namespace NameMap

variable {α : Type u}

def empty : NameMap α := {}

def names (map : NameMap α) : List String := Entries.names map.entries

def size (map : NameMap α) : Nat := map.entries.length

def value? (map : NameMap α) (name : String) : Option α := Entries.value? map.entries name

/-! `alterEntries` gives the entry under `name` the value that `change` makes of the value before,
at the place where the order of names wants it. -/

def alterEntries (name : String) (change : Option α → α) : Entries α → Entries α
  | [] => [(name, change none)]
  | (other, value) :: rest =>
      if other < name then (other, value) :: alterEntries name change rest
      else if other = name then (name, change (some value)) :: rest
      else (name, change none) :: (other, value) :: rest

theorem fst_eq_or_mem_of_mem_alterEntries {name : String} {change : Option α → α}
    {entries : Entries α} {entry : String × α} (member : entry ∈ alterEntries name change entries) :
    entry.1 = name ∨ entry ∈ entries := by
  induction entries with
  | nil =>
      simp only [alterEntries, List.mem_singleton] at member
      exact .inl (by rw [member])
  | cons head rest induction =>
      obtain ⟨other, value⟩ := head
      unfold alterEntries at member
      split at member
      · rcases List.mem_cons.mp member with equal | member
        · exact .inr (by rw [equal]; exact List.mem_cons_self)
        · exact (induction member).imp_right (List.mem_cons_of_mem _)
      · split at member
        · rcases List.mem_cons.mp member with equal | member
          · exact .inl (by rw [equal])
          · exact .inr (List.mem_cons_of_mem _ member)
        · rcases List.mem_cons.mp member with equal | member
          · exact .inl (by rw [equal])
          · exact .inr member

theorem alterEntries_increasing (name : String) (change : Option α → α) {entries : Entries α}
    (increasing : entries.Pairwise (fun left right => left.1 < right.1)) :
    (alterEntries name change entries).Pairwise (fun left right => left.1 < right.1) := by
  induction entries with
  | nil => simp [alterEntries]
  | cons head rest induction =>
      obtain ⟨other, value⟩ := head
      have parts := List.pairwise_cons.mp increasing
      unfold alterEntries
      split
      next before =>
        refine List.pairwise_cons.mpr ⟨fun entry member => ?_, induction parts.2⟩
        rcases fst_eq_or_mem_of_mem_alterEntries member with equal | member
        · rw [equal]; exact before
        · exact parts.1 entry member
      next notBefore =>
        split
        next equal => exact List.pairwise_cons.mpr ⟨equal ▸ parts.1, parts.2⟩
        next different =>
          have after : name < other :=
            Std.lt_of_le_of_ne (String.not_lt.mp notBefore) (Ne.symm different)
          refine List.pairwise_cons.mpr ⟨fun entry member => ?_, increasing⟩
          rcases List.mem_cons.mp member with equal | member
          · rw [equal]; exact after
          · exact String.lt_trans after (parts.1 entry member)

/-- Give `name` the value that `change` makes of the value it has now, if any. -/
def alter (map : NameMap α) (name : String) (change : Option α → α) : NameMap α where
  entries := alterEntries name change map.entries
  increasing := alterEntries_increasing name change map.increasing

def put (map : NameMap α) (name : String) (value : α) : NameMap α :=
  map.alter name fun _ => value

def ofEntries (entries : Entries α) : NameMap α :=
  entries.foldl (fun map (name, value) => map.put name value) empty

example : (ofEntries [("b", 1), ("a", 2), ("b", 3)]).entries = [("a", 2), ("b", 3)] := by decide

/-- Change every value, which leaves the names alone. -/
def mapValues {β : Type u} (map : NameMap α) (change : String → α → β) : NameMap β where
  entries := map.entries.map fun (name, value) => (name, change name value)
  increasing := List.pairwise_map.mpr map.increasing

end NameMap

end ApiGraph
