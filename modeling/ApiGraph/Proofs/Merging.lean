import ApiGraph.Conversion.Operation
import ApiGraph.Proofs.Sorting

namespace ApiGraph

/-! # Parameters that override others

An operation puts its own parameters in, one after the other, over those that all operations of its
path share. What comes of this is said of the whole list first, and then shown to be the one list
that is said. -/

/-- What parameters are told apart by. -/
def Parameter.key (parameter : Parameter) : String × ParameterLocation :=
  (parameter.name, parameter.location)

/-- What the shared parameters become under an operation's own: keys that are new follow in the order
in which they come up; where a key comes first stands the last of the own parameters that have it; and
nothing else is moved. -/
structure Merges (shared own merged : List Parameter) : Prop where
  keys : merged.map Parameter.key = shared.map Parameter.key ++
    ((own.map Parameter.key).filter (· ∉ shared.map Parameter.key)).eraseDups
  overridden : ∀ key ∈ own.map Parameter.key,
    merged[(merged.map Parameter.key).idxOf key]? =
      (own.filter fun parameter => parameter.key = key).getLast?
  kept : ∀ position, (∀ key ∈ own.map Parameter.key,
    position ≠ (merged.map Parameter.key).idxOf key) → merged[position]? = shared[position]?

/-! ## One parameter -/

section Override

variable {parameters : List Parameter} {parameter : Parameter}

theorem overrideParameter_cons (other : Parameter) :
    overrideParameter (other :: parameters) parameter =
      if other.key = parameter.key then parameter :: parameters
      else other :: overrideParameter parameters parameter := by
  simp only [overrideParameter, Parameter.key, Prod.mk.injEq]

theorem keys_overrideParameter :
    (overrideParameter parameters parameter).map Parameter.key =
      if parameter.key ∈ parameters.map Parameter.key then parameters.map Parameter.key
      else parameters.map Parameter.key ++ [parameter.key] := by
  induction parameters with
  | nil => rfl
  | cons other rest induction =>
      rw [overrideParameter_cons]
      by_cases equal : other.key = parameter.key
      · simp [equal]
      · have different : parameter.key ≠ other.key := Ne.symm equal
        simp only [if_neg equal, List.map_cons, induction, List.mem_cons, different, false_or]
        split <;> rfl

theorem getElem?_overrideParameter (position : Nat) :
    (overrideParameter parameters parameter)[position]? =
      if position = (parameters.map Parameter.key).idxOf parameter.key then some parameter
      else parameters[position]? := by
  induction parameters generalizing position with
  | nil => cases position <;> simp [overrideParameter]
  | cons other rest induction =>
      rw [overrideParameter_cons, List.map_cons]
      by_cases equal : other.key = parameter.key
      · rw [if_pos equal, equal, List.idxOf_cons_self]
        cases position <;> simp
      · rw [if_neg equal, List.idxOf_cons_ne _ equal]
        cases position with
        | zero => simp
        | succ position => simp [induction]

/-- A key that is put in keeps the first position that it has. -/
theorem idxOf_keys_overrideParameter {key : String × ParameterLocation}
    (known : key = parameter.key ∨ key ∈ parameters.map Parameter.key) :
    ((overrideParameter parameters parameter).map Parameter.key).idxOf key =
      (parameters.map Parameter.key).idxOf key := by
  rw [keys_overrideParameter]
  split
  next => rfl
  next absent =>
    by_cases member : key ∈ parameters.map Parameter.key
    · exact List.idxOf_append_of_mem member
    · have equal := known.resolve_right member
      rw [List.idxOf_append_of_notMem member, equal, List.idxOf_cons_self, Nat.add_zero,
        List.idxOf_eq_length absent]

end Override

/-! ## All of them -/

section Merges

variable {shared own merged : List Parameter} {parameter : Parameter}

theorem Merges.mem_keys_iff (merges : Merges shared own merged) {key : String × ParameterLocation} :
    key ∈ merged.map Parameter.key ↔
      key ∈ shared.map Parameter.key ∨ key ∈ own.map Parameter.key := by
  rw [merges.keys, List.mem_append, List.mem_eraseDups, List.mem_filter, decide_eq_true_eq]
  tauto

theorem Merges.nothing (shared : List Parameter) : Merges shared [] shared where
  keys := by simp
  overridden key member := by cases member
  kept _ _ := rfl

theorem Merges.concat (merges : Merges shared own merged) (parameter : Parameter) :
    Merges shared (own ++ [parameter]) (overrideParameter merged parameter) where
  keys := by
    rw [keys_overrideParameter, List.map_append, List.map_singleton, List.filter_append]
    by_cases inShared : parameter.key ∈ shared.map Parameter.key
    · rw [if_pos (merges.mem_keys_iff.mpr (.inl inShared)),
        List.filter_cons_of_neg (by simpa using inShared), List.filter_nil, List.append_nil]
      exact merges.keys
    · rw [List.filter_cons_of_pos (by simpa using inShared), List.filter_nil]
      by_cases inOwn : parameter.key ∈ own.map Parameter.key
      · have added : parameter.key ∈
            (own.map Parameter.key).filter (· ∉ shared.map Parameter.key) :=
          List.mem_filter.mpr ⟨inOwn, by simpa using inShared⟩
        rw [if_pos (merges.mem_keys_iff.mpr (.inr inOwn)), eraseDups_concat_of_mem added]
        exact merges.keys
      · have absent : parameter.key ∉ merged.map Parameter.key := by
          rw [merges.mem_keys_iff, not_or]
          exact ⟨inShared, inOwn⟩
        rw [if_neg absent, eraseDups_concat_of_notMem fun added => inOwn (List.mem_filter.mp added).1,
          ← List.append_assoc, ← merges.keys]
  overridden key member := by
    rw [List.map_append, List.mem_append, List.map_singleton, List.mem_singleton] at member
    rw [List.filter_append]
    by_cases equal : key = parameter.key
    · rw [idxOf_keys_overrideParameter (.inl equal), getElem?_overrideParameter, equal, if_pos rfl]
      simp
    · have earlier := member.resolve_right equal
      have known : key ∈ merged.map Parameter.key := merges.mem_keys_iff.mpr (.inr earlier)
      have elsewhere : (merged.map Parameter.key).idxOf key ≠
          (merged.map Parameter.key).idxOf parameter.key := by
        intro same
        exact equal ((List.idxOf_inj known).mp same)
      rw [idxOf_keys_overrideParameter (.inr known), getElem?_overrideParameter,
        if_neg elsewhere, merges.overridden key earlier]
      simp [Ne.symm equal]
  kept position free := by
    have last : position ≠ (merged.map Parameter.key).idxOf parameter.key := by
      rw [← idxOf_keys_overrideParameter (.inl rfl)]
      exact free parameter.key (by simp)
    rw [getElem?_overrideParameter, if_neg last]
    apply merges.kept
    intro key member
    have known : key ∈ merged.map Parameter.key := merges.mem_keys_iff.mpr (.inr member)
    rw [← idxOf_keys_overrideParameter (.inr known)]
    exact free key (by simp [List.mem_map.mp member])

theorem merges_foldl_overrideParameter (shared own : List Parameter) :
    Merges shared own (own.foldl overrideParameter shared) := by
  -- The last parameter wins, so the list is taken apart at its end.
  induction own using List.reverseRecOn with
  | nil => exact .nothing shared
  | append_singleton own parameter induction =>
      rw [List.foldl_append]
      exact induction.concat parameter

/-- The parameter at a position is known from the parameters that were merged. -/
theorem Merges.unique {other : List Parameter} (merges : Merges shared own merged)
    (also : Merges shared own other) : merged = other := by
  have keys : merged.map Parameter.key = other.map Parameter.key :=
    merges.keys.trans also.keys.symm
  apply List.ext_getElem?
  intro position
  by_cases own_ : ∃ key ∈ own.map Parameter.key,
      position = (merged.map Parameter.key).idxOf key
  · rcases own_ with ⟨key, member, rfl⟩
    rw [merges.overridden key member, keys, also.overridden key member]
  · have free : ∀ key ∈ own.map Parameter.key,
        position ≠ (merged.map Parameter.key).idxOf key :=
      fun key member equal => own_ ⟨key, member, equal⟩
    rw [merges.kept position free, also.kept position (keys ▸ free)]

theorem merges_iff : Merges shared own merged ↔ own.foldl overrideParameter shared = merged := by
  constructor
  · intro merges
    exact (merges_foldl_overrideParameter shared own).unique merges
  · intro equal
    exact equal ▸ merges_foldl_overrideParameter shared own

end Merges

end ApiGraph
