import ApiGraph.Entries
import Mathlib.Data.List.Forall2

namespace ApiGraph

/-! # Related values

Two values that may be missing are related when both are there and related, or both are missing.
Entries are related when their names are the same and their values are related one by one. -/

/-! ## Values that may be missing -/

section Optional

variable {α β γ δ : Type} {Related Implied : α → β → Prop} {Results : γ → δ → Prop}
  {left : Option α} {right : Option β}

theorem rel_refl {Related : α → α → Prop} (each : ∀ value, Related value value)
    (value? : Option α) : Option.Rel Related value? value? := by
  cases value? with
  | none => exact .none
  | some value => exact .some (each value)

theorem rel_imp (implied : ∀ {value other}, Related value other → Implied value other)
    (related : Option.Rel Related left right) : Option.Rel Implied left right := by
  cases related with
  | none => exact .none
  | some here => exact .some (implied here)

/-- What is done next may use that the first value is there. -/
theorem rel_bind {first : α → Option γ} {second : β → Option δ}
    (related : Option.Rel Related left right)
    (next : ∀ value other, left = some value → Related value other →
      Option.Rel Results (first value) (second other)) :
    Option.Rel Results (left.bind first) (right.bind second) := by
  cases related with
  | none => exact .none
  | some held => exact next _ _ rfl held

theorem rel_map {first : α → γ} {second : β → δ} (related : Option.Rel Related left right)
    (next : ∀ value other, Related value other → Results (first value) (second other)) :
    Option.Rel Results (left.map first) (right.map second) := by
  cases related with
  | none => exact .none
  | some held => exact .some (next _ _ held)

theorem exists_of_rel_some {other : β} (related : Option.Rel Related left (some other)) :
    ∃ value, left = some value ∧ Related value other := by
  cases related with
  | some held => exact ⟨_, rfl, held⟩

theorem rel_mapM {first : α → Option γ} {second : β → Option δ} {values : List α} {others : List β}
    (related : List.Forall₂ Related values others)
    (next : ∀ value other, Related value other →
      Option.Rel Results (first value) (second other)) :
    Option.Rel (List.Forall₂ Results) (values.mapM first) (others.mapM second) := by
  induction related with
  | nil => exact .some .nil
  | cons held _ induction =>
      rw [List.mapM_cons, List.mapM_cons]
      refine rel_bind (next _ _ held) fun _ _ _ head => ?_
      exact rel_bind induction fun _ _ _ tail => .some (.cons head tail)

end Optional

/-! ## Lists -/

section Lists

variable {α β : Type} {Related : α → β → Prop} {values : List α} {others : List β}

theorem exists_of_mem_left (related : List.Forall₂ Related values others) {value : α}
    (member : value ∈ values) : ∃ other ∈ others, Related value other := by
  induction related with
  | nil => cases member
  | @cons first other _ _ here _ induction =>
      rcases List.mem_cons.mp member with equal | later
      · exact ⟨other, List.mem_cons_self, equal ▸ here⟩
      · rcases induction later with ⟨found, inside, held⟩
        exact ⟨found, List.mem_cons_of_mem _ inside, held⟩

theorem exists_of_mem_right (related : List.Forall₂ Related values others) {other : β}
    (member : other ∈ others) : ∃ value ∈ values, Related value other := by
  have flipped : List.Forall₂ (flip Related) others values := .flip related
  exact exists_of_mem_left flipped member

end Lists

/-! ## Entries -/

/-- Entries with the same names whose values are related one by one. -/
inductive Entries.Rel {α β : Type} (Related : α → β → Prop) : Entries α → Entries β → Prop where
  | nil : Rel Related [] []
  | cons {name : String} {value : α} {other : β} {entries : Entries α} {others : Entries β}
      (related : Related value other) (rest : Rel Related entries others) :
      Rel Related ((name, value) :: entries) ((name, other) :: others)

namespace Entries.Rel

variable {α β : Type} {Related Implied : α → β → Prop} {entries more : Entries α}
  {others rest : Entries β}

theorem names_eq (related : Entries.Rel Related entries others) :
    Entries.names others = Entries.names entries := by
  induction related with
  | nil => rfl
  | cons _ _ induction =>
      rw [Entries.names, Entries.names] at induction ⊢
      rw [List.map_cons, List.map_cons, induction]

theorem value? (related : Entries.Rel Related entries others) (name : String) :
    Option.Rel Related (Entries.value? entries name) (Entries.value? others name) := by
  induction related with
  | nil => exact .none
  | @cons first value other entries others here _ induction =>
      by_cases equal : first = name
      · rw [Entries.value?, Entries.value?, if_pos equal, if_pos equal]
        exact .some here
      · rw [Entries.value?, Entries.value?, if_neg equal, if_neg equal]
        exact induction

theorem append (related : Entries.Rel Related entries others)
    (also : Entries.Rel Related more rest) :
    Entries.Rel Related (entries ++ more) (others ++ rest) := by
  induction related with
  | nil => exact also
  | cons here _ induction => exact .cons here induction

theorem filter (related : Entries.Rel Related entries others) (keep : String → Bool) :
    Entries.Rel Related (entries.filter fun (name, _) => keep name)
      (others.filter fun (name, _) => keep name) := by
  induction related with
  | nil => exact .nil
  | @cons name _ _ _ _ here _ induction =>
      cases kept : keep name with
      | true => simpa only [List.filter_cons, kept, if_true] using Rel.cons here induction
      | false => simpa only [List.filter_cons, kept, Bool.false_eq_true, if_false] using induction

theorem isEmpty_eq (related : Entries.Rel Related entries others) :
    others.isEmpty = entries.isEmpty := by
  cases related <;> rfl

theorem imp (related : Entries.Rel Related entries others)
    (implied : ∀ {value other}, Related value other → Implied value other) :
    Entries.Rel Implied entries others := by
  induction related with
  | nil => exact .nil
  | cons here _ induction => exact .cons (implied here) induction

theorem refl {Related : α → α → Prop} {entries : Entries α}
    (each : ∀ entry ∈ entries, Related entry.2 entry.2) : Entries.Rel Related entries entries := by
  induction entries with
  | nil => exact .nil
  | cons entry rest induction =>
      have parts := List.forall_mem_cons.mp each
      exact .cons parts.1 (induction parts.2)

end Entries.Rel

end ApiGraph
