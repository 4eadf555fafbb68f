namespace ApiGraph

universe u

/-! Named values in declaration order. Descriptions of interfaces are read as lists of entries,
never as unordered tables, because the order of fields, handlers and types is taken from them. -/

abbrev Entries (α : Type u) := List (String × α)

namespace Entries

variable {α : Type u}

def names (entries : Entries α) : List String := entries.map Prod.fst

/-- The value entered under a name. -/
def value? (entries : Entries α) (name : String) : Option α :=
  match entries with
  | [] => none
  | (other, value) :: rest => if other = name then some value else value? rest name

/-- Enter a value. A name that is already there keeps its place and takes the new value. -/
def put (entries : Entries α) (name : String) (value : α) : Entries α :=
  match entries with
  | [] => [(name, value)]
  | (other, old) :: rest =>
      if other = name then (other, value) :: rest else (other, old) :: put rest name value

/-- Enter several values one after the other. -/
def putAll (entries additions : Entries α) : Entries α :=
  additions.foldl (fun filled (name, value) => put filled name value) entries

/-- The last value wins, at the place of the first. -/
example : putAll [] [("a", 1), ("b", 2), ("a", 3)] = [("a", 3), ("b", 2)] := by decide

@[simp] theorem value?_nil (name : String) : value? ([] : Entries α) name = none := rfl

theorem value?_isSome_iff (entries : Entries α) (name : String) :
    (value? entries name).isSome ↔ name ∈ names entries := by
  induction entries with
  | nil => simp [names]
  | cons head rest induction =>
      obtain ⟨other, value⟩ := head
      by_cases equal : other = name
      · simp [value?, names, equal]
      · have different : name ≠ other := Ne.symm equal
        simp only [value?, if_neg equal, induction]
        simp [names, different]

theorem mem_of_value?_eq_some {entries : Entries α} {name : String} {value : α}
    (found : value? entries name = some value) : (name, value) ∈ entries := by
  induction entries with
  | nil => simp at found
  | cons head rest induction =>
      obtain ⟨other, old⟩ := head
      by_cases equal : other = name
      · simp only [value?, if_pos equal, Option.some.injEq] at found
        simp [equal, found]
      · simp only [value?, if_neg equal] at found
        exact List.mem_cons_of_mem _ (induction found)

theorem value?_eq_some_of_mem {entries : Entries α} {name : String} {value : α}
    (distinct : (names entries).Nodup) (member : (name, value) ∈ entries) :
    value? entries name = some value := by
  induction entries with
  | nil => cases member
  | cons head rest induction =>
      obtain ⟨other, old⟩ := head
      have parts := List.nodup_cons.mp distinct
      rcases List.mem_cons.mp member with equal | member
      · cases equal
        simp [value?]
      · have different : other ≠ name := by
          intro equal
          apply parts.1
          rw [equal]
          exact List.mem_map.mpr ⟨(name, value), member, rfl⟩
        simp only [value?, if_neg different]
        exact induction parts.2 member

theorem mem_names_of_value?_eq_some {entries : Entries α} {name : String} {value : α}
    (found : value? entries name = some value) : name ∈ names entries := by
  rw [← value?_isSome_iff, found]
  rfl

theorem value?_append (entries additions : Entries α) (name : String) :
    value? (entries ++ additions) name = (value? entries name).or (value? additions name) := by
  induction entries with
  | nil => rfl
  | cons head rest induction =>
      obtain ⟨other, value⟩ := head
      by_cases equal : other = name
      · simp [value?, equal]
      · simp [value?, equal, induction]

theorem names_put (entries : Entries α) (name : String) (value : α) :
    names (put entries name value) =
      if name ∈ names entries then names entries else names entries ++ [name] := by
  induction entries with
  | nil => simp [put, names]
  | cons head rest induction =>
      obtain ⟨first, old⟩ := head
      by_cases equal : first = name
      · simp [put, names, equal]
      · have different : name ≠ first := Ne.symm equal
        simp only [names] at induction
        simp only [put, if_neg equal, names, List.map_cons, List.mem_cons, different, false_or]
        by_cases known : name ∈ rest.map Prod.fst <;> simp_all

end Entries

end ApiGraph
