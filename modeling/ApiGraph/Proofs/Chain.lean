import ApiGraph.Document
import Mathlib.Data.List.Perm.Subperm
import Mathlib.Logic.Relation

namespace ApiGraph

/-! # Chains of references

A component may be a reference to another one of its section, which may be a reference in turn. What
a name stands for is the definition at the end of the chain. The relation `LeadsTo` says this
without any bound on the length of the chain; `follow` computes the same, since a chain that ends
never comes to the same name twice and so is not longer than the list of components. -/

namespace Referable

variable {α : Type} (components : Entries (Referable α)) (target? : String → Option String)

/-- The chain that starts at the name `first` ends at the definition `value`, declared as `last`. -/
inductive LeadsTo : (first last : String) → (value : α) → Prop where
  | here {name : String} {value : α}
      (declared : Entries.value? components name = some (.inline value)) : LeadsTo name name value
  | onward {name path next last : String} {value : α}
      (declared : Entries.value? components name = some (.reference path))
      (target : target? path = some next) (rest : LeadsTo next last value) :
      LeadsTo name last value

def followWithin : Nat → String → Option (String × α)
  | 0, _ => none
  | steps + 1, name =>
      match Entries.value? components name with
      | some (.inline value) => some (name, value)
      | some (.reference path) => (target? path).bind (followWithin steps)
      | none => none

/-- The end of the chain that starts at a name. -/
def follow (name : String) : Option (String × α) :=
  followWithin components target? components.length name

variable {components target?}

theorem followWithin_of_undeclared {steps : Nat} {name : String}
    (undeclared : Entries.value? components name = none) :
    followWithin components target? steps name = none := by
  cases steps with
  | zero => rfl
  | succ steps => simp only [followWithin, undeclared]

theorem LeadsTo.declared {first last : String} {value : α}
    (leads : LeadsTo components target? first last value) :
    Entries.value? components last = some (.inline value) := by
  induction leads with
  | here declared => exact declared
  | onward _ _ _ induction => exact induction

theorem LeadsTo.last_eq {first last : String} {value other : α}
    (leads : LeadsTo components target? first last value)
    (concrete : Entries.value? components first = some (.inline other)) :
    first = last ∧ value = other := by
  cases leads with
  | here declared =>
      rw [declared] at concrete
      cases concrete
      exact ⟨rfl, rfl⟩
  | onward declared =>
      rw [declared] at concrete
      cases concrete

/-! ## Enough steps -/

theorem leadsTo_of_followWithin {steps : Nat} {first last : String} {value : α}
    (found : followWithin components target? steps first = some (last, value)) :
    LeadsTo components target? first last value := by
  induction steps generalizing first with
  | zero => cases found
  | succ steps induction =>
      unfold followWithin at found
      split at found
      next declared =>
        cases found
        exact .here declared
      next path declared =>
        rcases Option.bind_eq_some_iff.mp found with ⟨next, target, rest⟩
        exact .onward declared target (induction rest)
      next => cases found

theorem followWithin_mono {steps more : Nat} {first : String} {result : String × α}
    (le : steps ≤ more) (found : followWithin components target? steps first = some result) :
    followWithin components target? more first = some result := by
  induction steps generalizing first more with
  | zero => cases found
  | succ steps induction =>
      cases more with
      | zero => omega
      | succ more =>
          unfold followWithin at found ⊢
          split
          next declared => simpa only [declared] using found
          next path declared =>
            simp only [declared] at found
            rcases Option.bind_eq_some_iff.mp found with ⟨next, target, rest⟩
            rw [target]
            exact induction (by omega) rest
          next declared => simp only [declared] at found; cases found

/-- The names on a chain, each once. All of them are declared, and as many steps as there are names
lead from any of them to the end. -/
theorem LeadsTo.exists_trail {first last : String} {value : α}
    (leads : LeadsTo components target? first last value) :
    ∃ trail : List String, trail.Nodup ∧ trail ⊆ Entries.names components ∧ first ∈ trail ∧
      ∀ name ∈ trail, followWithin components target? trail.length name = some (last, value) := by
  induction leads with
  | @here name value declared =>
      refine ⟨[name], by simp, ?_, List.mem_singleton_self name, ?_⟩
      · simpa using Entries.mem_names_of_value?_eq_some declared
      · intro other member
        rw [List.mem_singleton.mp member]
        simp only [List.length_singleton, followWithin, declared]
  | @onward name path next last value declared target rest induction =>
      rcases induction with ⟨trail, nodup, subset, member, follows⟩
      -- A chain that came back to its first name would not need the steps in between.
      by_cases back : name ∈ trail
      · exact ⟨trail, nodup, subset, back, follows⟩
      · refine ⟨name :: trail, List.nodup_cons.mpr ⟨back, nodup⟩, ?_, List.mem_cons_self, ?_⟩
        · exact List.cons_subset.mpr ⟨Entries.mem_names_of_value?_eq_some declared, subset⟩
        · intro other inside
          rcases List.mem_cons.mp inside with equal | inside
          · subst equal
            simp only [List.length_cons, followWithin, declared, target]
            exact follows next member
          · exact followWithin_mono (Nat.le_succ _) (follows other inside)

theorem follow_eq_some_iff {first last : String} {value : α} :
    follow components target? first = some (last, value) ↔
      LeadsTo components target? first last value := by
  constructor
  · exact leadsTo_of_followWithin
  · intro leads
    rcases leads.exists_trail with ⟨trail, nodup, subset, member, follows⟩
    have short : trail.length ≤ components.length := by
      have bounded := (List.subperm_of_subset nodup subset).length_le
      rwa [Entries.names, List.length_map] at bounded
    exact followWithin_mono short (follows first member)

theorem LeadsTo.unique {first last other : String} {value different : α}
    (leads : LeadsTo components target? first last value)
    (also : LeadsTo components target? first other different) :
    last = other ∧ value = different := by
  have equal := (follow_eq_some_iff.mpr leads).symm.trans (follow_eq_some_iff.mpr also)
  cases equal
  exact ⟨rfl, rfl⟩

/-! ## Chains do not come back -/

variable (components target?) in
/-- A component is a reference to another one. -/
def Precedes (name next : String) : Prop :=
  ∃ path, Entries.value? components name = some (.reference path) ∧ target? path = some next

/-- No name on a chain that ends is met again further on. -/
theorem LeadsTo.not_recurrent {first last : String} {value : α}
    (leads : LeadsTo components target? first last value) :
    ¬Relation.TransGen (Precedes components target?) first first := by
  induction leads with
  | here declared =>
      intro recurrent
      rcases Relation.TransGen.head'_iff.mp recurrent with ⟨next, ⟨path, reference, _⟩, _⟩
      rw [declared] at reference
      cases reference
  | @onward name path next last value declared target rest induction =>
      intro recurrent
      rcases Relation.TransGen.head'_iff.mp recurrent with ⟨other, ⟨way, reference, led⟩, back⟩
      rw [declared] at reference
      cases reference
      rw [target] at led
      cases led
      exact induction (.tail' back ⟨path, declared, target⟩)

/-! ## Items that refer to components -/

variable (components target?) in
/-- An item is a definition, or a reference to a component that leads to one. -/
inductive Resolves : Referable α → α → Prop where
  | inline (value : α) : Resolves (.inline value) value
  | reference {path name last : String} {value : α} (target : target? path = some name)
      (leads : LeadsTo components target? name last value) : Resolves (.reference path) value

end Referable

end ApiGraph
