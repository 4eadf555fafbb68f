import ApiGraph.NameMap
import Mathlib.Data.List.Forall2

namespace ApiGraph

/-! # Maps in the order of names

A map is known by its values: `value?_alter` says what a change does to them, and `mem_entries_iff`
says that the entries of a map hold nothing else. The entries are sorted, so the first of them that
meets a condition has the least name of all that do. -/

namespace NameMap

variable {α β : Type} {name other : String} {value : α}

theorem value?_eq_none_of_lt {entries : Entries α} (after : ∀ entry ∈ entries, name < entry.1) :
    Entries.value? entries name = none := by
  cases found : Entries.value? entries name with
  | none => rfl
  | some value =>
      have less := after (name, value) (Entries.mem_of_value?_eq_some found)
      exact absurd less (String.lt_irrefl name)

theorem value?_alterEntries {entries : Entries α} (change : Option α → α)
    (increasing : entries.Pairwise fun left right => left.1 < right.1) :
    Entries.value? (alterEntries name change entries) other =
      if other = name then some (change (Entries.value? entries name))
      else Entries.value? entries other := by
  induction entries with
  | nil =>
      by_cases equal : other = name
      · simp [alterEntries, Entries.value?, equal]
      · have different : name ≠ other := Ne.symm equal
        simp [alterEntries, Entries.value?, equal, different]
  | cons head rest induction =>
      rcases head with ⟨first, held⟩
      have parts := List.pairwise_cons.mp increasing
      have others := induction parts.2
      unfold alterEntries
      split
      next before =>
        have different : first ≠ name := by
          intro equal
          exact String.lt_irrefl name (equal ▸ before)
        by_cases equal : other = name
        · subst equal
          simp [Entries.value?, others, different]
        · simp [Entries.value?, others, equal]
      next notBefore =>
        split
        next same =>
          subst same
          by_cases equal : other = first
          · simp [Entries.value?, equal]
          · have different : first ≠ other := Ne.symm equal
            simp [Entries.value?, equal, different]
        next different =>
          have before : name < first :=
            Std.lt_of_le_of_ne (String.not_lt.mp notBefore) (Ne.symm different)
          have absent : Entries.value? ((first, held) :: rest) name = none := by
            apply value?_eq_none_of_lt
            intro entry member
            rcases List.mem_cons.mp member with equal | member
            · rw [equal]
              exact before
            · exact String.lt_trans before (parts.1 entry member)
          rw [absent]
          by_cases equal : other = name
          · simp [Entries.value?, equal]
          · have apart : name ≠ other := Ne.symm equal
            simp [Entries.value?, equal, apart]

theorem value?_alter (map : NameMap α) (change : Option α → α) :
    (map.alter name change).value? other =
      if other = name then some (change (map.value? name)) else map.value? other :=
  value?_alterEntries change map.increasing

theorem value?_mapValues (map : NameMap α) (change : String → α → β) :
    (map.mapValues change).value? name = (map.value? name).map (change name) := by
  rcases map with ⟨entries, increasing⟩
  simp only [mapValues, value?]
  clear increasing
  induction entries with
  | nil => rfl
  | cons head rest induction =>
      rcases head with ⟨first, held⟩
      by_cases equal : first = name
      · simp [Entries.value?, equal]
      · simp [Entries.value?, equal, induction]

theorem mem_entries_iff (map : NameMap α) :
    (name, value) ∈ map.entries ↔ map.value? name = some value := by
  rcases map with ⟨entries, increasing⟩
  simp only [value?]
  constructor
  · intro member
    induction entries with
    | nil => cases member
    | cons head rest induction =>
        rcases head with ⟨first, held⟩
        have parts := List.pairwise_cons.mp increasing
        rcases List.mem_cons.mp member with equal | member
        · cases equal
          simp [Entries.value?]
        · have different : first ≠ name := by
            intro equal
            exact String.lt_irrefl name (equal ▸ parts.1 _ member)
          simp only [Entries.value?, if_neg different]
          exact induction parts.2 member
  · exact Entries.mem_of_value?_eq_some

/-- The first entry that meets a condition has the least name of all that do. -/
theorem find?_cases (map : NameMap α) (condition : String × α → Bool) :
    (∃ entry, map.entries.find? condition = some entry ∧ entry ∈ map.entries ∧ condition entry ∧
        ∀ other ∈ map.entries, condition other → entry.1 ≤ other.1) ∨
      map.entries.find? condition = none ∧ ∀ entry ∈ map.entries, ¬condition entry := by
  cases found : map.entries.find? condition with
  | none => exact .inr ⟨rfl, List.find?_eq_none.mp found⟩
  | some entry =>
      rcases List.find?_eq_some_iff_append.mp found with ⟨holds, before, after, equal, fails⟩
      refine .inl ⟨entry, rfl, List.mem_of_find?_eq_some found, holds, ?_⟩
      intro other member meets
      have increasing := map.increasing
      rw [equal] at member increasing
      rcases List.mem_append.mp member with member | member
      · simpa [meets] using fails other member
      · rcases List.mem_cons.mp member with same | member
        · cases same
          exact String.le_refl entry.1
        · have sorted := (List.pairwise_append.mp increasing).2.1
          exact Std.le_of_lt ((List.pairwise_cons.mp sorted).1 other member)

/-! ## Equal maps -/

/-- Maps with the same values are the same list of entries. -/
theorem ext_of_value? {left right : NameMap α}
    (same : ∀ name, left.value? name = right.value? name) : left = right := by
  have nodup (map : NameMap α) : map.entries.Nodup :=
    map.increasing.imp fun {first second} less equal => by
      rw [equal] at less
      exact String.lt_irrefl second.1 less
  have weak (map : NameMap α) : map.entries.Pairwise fun first second => first.1 ≤ second.1 :=
    map.increasing.imp Std.le_of_lt
  have entries : left.entries = right.entries := by
    refine List.Perm.eq_of_pairwise ?_ (weak left) (weak right) ?_
    · intro first second leftInside rightInside before after
      rcases first with ⟨name, value⟩
      rcases second with ⟨other, held⟩
      cases String.le_antisymm before after
      rw [mem_entries_iff, same, (mem_entries_iff right).mp rightInside] at leftInside
      rw [Option.some.inj leftInside]
    · refine (List.perm_ext_iff_of_nodup (nodup left) (nodup right)).mpr fun entry => ?_
      rcases entry with ⟨name, value⟩
      rw [mem_entries_iff, mem_entries_iff, same]
  cases left
  cases right
  cases entries
  rfl

theorem names_mapValues (map : NameMap α) (change : String → α → β) :
    (map.mapValues change).names = map.names := by
  rw [names, names, mapValues, Entries.names, Entries.names, List.map_map]
  rfl

theorem names_eq_of_isSome {left : NameMap α} {right : NameMap β}
    (same : ∀ name, (left.value? name).isSome ↔ (right.value? name).isSome) :
    left.names = right.names := by
  have equal : left.mapValues (fun _ _ => ()) = right.mapValues fun _ _ => () := by
    apply ext_of_value?
    intro name
    rw [value?_mapValues, value?_mapValues]
    have present := same name
    cases found : left.value? name <;> cases held : right.value? name <;> simp_all
  rw [← names_mapValues left, equal, names_mapValues]

theorem forall₂_of_names {Related : α → β → Prop} {left : Entries α} {right : Entries β}
    (names : Entries.names left = Entries.names right)
    (related : ∀ name value held, (name, value) ∈ left → (name, held) ∈ right →
      Related value held) :
    List.Forall₂ (fun first second => Related first.2 second.2) left right := by
  induction left generalizing right with
  | nil =>
      rw [List.map_eq_nil_iff.mp names.symm]
      exact .nil
  | cons first rest induction =>
      rcases right with _ | ⟨second, others⟩
      · cases names
      rcases first with ⟨name, value⟩
      rcases second with ⟨other, held⟩
      rw [Entries.names, Entries.names, List.map_cons, List.map_cons] at names
      rcases List.cons.inj names with ⟨same, tails⟩
      simp only at same
      subst same
      refine .cons (related _ _ _ List.mem_cons_self List.mem_cons_self) (induction tails ?_)
      intro name value held inside member
      exact related name value held (List.mem_cons_of_mem _ inside) (List.mem_cons_of_mem _ member)

/-- Two maps of the same names, entry by entry. -/
theorem forall₂_entries (Related : α → β → Prop) {left : NameMap α} {right : NameMap β}
    (names : left.names = right.names)
    (related : ∀ name value held, left.value? name = some value → right.value? name = some held →
      Related value held) :
    List.Forall₂ (fun first second => Related first.2 second.2) left.entries right.entries :=
  forall₂_of_names names fun name value held inside member =>
    related name value held (left.mem_entries_iff.mp inside) (right.mem_entries_iff.mp member)

theorem value?_put (map : NameMap α) :
    (map.put name value).value? other = if other = name then some value else map.value? other :=
  map.value?_alter _

theorem value?_foldl_put (map : NameMap α) {entries : Entries α}
    (distinct : (Entries.names entries).Nodup) :
    (entries.foldl (fun map (name, value) => map.put name value) map).value? name =
      (Entries.value? entries name).or (map.value? name) := by
  induction entries generalizing map with
  | nil => rfl
  | cons entry rest induction =>
      rcases entry with ⟨first, held⟩
      have parts := List.nodup_cons.mp distinct
      rw [List.foldl_cons, induction _ parts.2, value?_put]
      by_cases equal : first = name
      · subst equal
        have absent : Entries.value? rest first = none := by
          rw [← Option.not_isSome_iff_eq_none, Entries.value?_isSome_iff]
          exact parts.1
        simp [Entries.value?, absent]
      · have different : name ≠ first := Ne.symm equal
        simp [Entries.value?, equal, different]

/-- A map of entries with different names has the values of the entries. -/
theorem value?_ofEntries {entries : Entries α} (distinct : (Entries.names entries).Nodup) :
    (ofEntries entries).value? name = Entries.value? entries name := by
  rw [ofEntries, value?_foldl_put empty distinct]
  exact Option.or_none

/-! ## Lists as values -/

/-- The entries that hold something. -/
def holding (map : NameMap (List α)) : NameMap (List α) where
  entries := map.entries.filter fun entry => !entry.2.isEmpty
  increasing := map.increasing.filter _

theorem value?_holding (map : NameMap (List α)) :
    map.holding.value? name = (map.value? name).filter fun held => !held.isEmpty := by
  ext held
  rw [← mem_entries_iff, holding, List.mem_filter, mem_entries_iff, Option.filter_eq_some_iff]

theorem flatten_holding (map : NameMap (List α)) :
    map.holding.entries.flatMap Prod.snd = map.entries.flatMap Prod.snd := by
  rcases map with ⟨entries, increasing⟩
  simp only [holding]
  clear increasing
  induction entries with
  | nil => rfl
  | cons entry rest induction =>
      rcases entry with ⟨first, held⟩
      rw [List.flatMap_cons, ← induction]
      cases held <;> simp

/-- What the lists of a map come to, one after the other in the order of names, is known by the list
of every name; a name without an entry counts like an empty list. -/
theorem flatten_eq {left right : NameMap (List α)}
    (same : ∀ name, (left.value? name).getD [] = (right.value? name).getD []) :
    left.entries.flatMap Prod.snd = right.entries.flatMap Prod.snd := by
  rw [← flatten_holding left, ← flatten_holding right]
  congr 2
  apply ext_of_value?
  intro name
  have equal := same name
  rw [value?_holding, value?_holding]
  cases found : left.value? name <;> cases held : right.value? name <;> simp_all [Option.filter]

/-- A change that adds to the list of one name adds as much to all lists together. -/
theorem flatMap_alterEntries_perm {added : List β} {part : α → List β} {change : Option α → α}
    (fresh : part (change none) = added)
    (changed : ∀ value, part (change (some value)) = part value ++ added) (entries : Entries α) :
    ((alterEntries name change entries).flatMap fun entry => part entry.2).Perm
      ((entries.flatMap fun entry => part entry.2) ++ added) := by
  induction entries with
  | nil => simp [alterEntries, fresh]
  | cons entry rest induction =>
      rcases entry with ⟨first, held⟩
      unfold alterEntries
      split
      · simp only [List.flatMap_cons, List.append_assoc]
        exact induction.append_left _
      · split
        · simp only [List.flatMap_cons, changed, List.append_assoc]
          exact List.perm_append_comm.append_left _
        · rw [List.flatMap_cons, fresh]
          exact List.perm_append_comm

end NameMap

end ApiGraph
