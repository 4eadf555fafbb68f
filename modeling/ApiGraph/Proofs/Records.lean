import ApiGraph.Source.Data
import Mathlib

namespace ApiGraph.Source.Data

/-! # Records

A record that is written as a map knows its fields by their names. It does not matter in which order
they stand, and members that no field answers to may come and go. Where the value of one field is
replaced, the values of all others stay what they were. -/

/-- What several values of one field come to: there may be one, or none. -/
def single? : List Data → Option (Option Data)
  | [] => some none
  | [value] => some (some value)
  | _ => none

theorem fieldsOfMembers_cons (members : List (Key × Data)) (position : Nat) (field : Field)
    (fields : List Field) :
    fieldsOfMembers members position (field :: fields) =
      (single? (fieldValues field position members)).bind fun value =>
        (fieldsOfMembers members (position + 1) fields).map (value :: ·) := by
  rw [fieldsOfMembers]
  rcases fieldValues field position members with _ | ⟨value, _ | ⟨second, rest⟩⟩
  · cases fieldsOfMembers members (position + 1) fields <;> rfl
  · cases fieldsOfMembers members (position + 1) fields <;> rfl
  · rfl

/-! ## The order of members -/

/-- Only where there is a single value it is taken, and then there is one order. -/
theorem single?_perm {values others : List Data} (perm : values.Perm others) :
    single? values = single? others := by
  rcases values with _ | ⟨value, _ | ⟨second, rest⟩⟩
  · rw [perm.nil_eq]
  · rw [List.singleton_perm.mp perm]
  · rcases others with _ | ⟨other, _ | ⟨next, later⟩⟩
    · exact absurd perm.length_eq (by simp)
    · exact absurd perm.length_eq (by simp)
    · rfl

theorem fieldValues_perm {members others : List (Key × Data)} (perm : members.Perm others)
    (field : Field) (position : Nat) :
    (fieldValues field position members).Perm (fieldValues field position others) :=
  (perm.filter _).map _

theorem fieldsOfMembers_perm {members others : List (Key × Data)} (perm : members.Perm others)
    (fields : List Field) (position : Nat) :
    fieldsOfMembers members position fields = fieldsOfMembers others position fields := by
  induction fields generalizing position with
  | nil => rfl
  | cons field fields induction =>
      rw [fieldsOfMembers_cons, fieldsOfMembers_cons, induction,
        single?_perm (fieldValues_perm perm field position)]

theorem record?_perm {members others : List (Key × Data)} (perm : members.Perm others)
    (fields : List Field) : record? fields (.map members) = record? fields (.map others) := by
  rw [record?, record?, perm.all_eq, fieldsOfMembers_perm perm]

/-! ## Members that no field answers to -/

theorem fieldValues_append (field : Field) (position : Nat) (members others : List (Key × Data)) :
    fieldValues field position (members ++ others) =
      fieldValues field position members ++ fieldValues field position others := by
  simp only [fieldValues, List.filter_append, List.map_append]

theorem fieldValues_cons_name (field : Field) (position : Nat) (name : String) (value : Data)
    (rest : List (Key × Data)) :
    fieldValues field position ((.name name, value) :: rest) =
      if name ∈ field.names then value :: fieldValues field position rest
      else fieldValues field position rest := by
  by_cases known : name ∈ field.names
  · simp [fieldValues, Field.answersTo, known]
  · simp [fieldValues, Field.answersTo, known]

section Members

variable {fields : List Field} {front rest : List (Key × Data)} {name : String}

theorem all_isField_name (value : Data) :
    ((front ++ (.name name, value) :: rest).all fun (key, _) => Key.isField key) =
      (front ++ rest).all fun (key, _) => Key.isField key := by
  simp only [List.all_append, List.all_cons, Key.isField, Bool.true_and]

theorem fieldsOfMembers_ignored (ignored : ∀ field ∈ fields, name ∉ field.names) (value : Data)
    (position : Nat) :
    fieldsOfMembers (front ++ (.name name, value) :: rest) position fields =
      fieldsOfMembers (front ++ rest) position fields := by
  induction fields generalizing position with
  | nil => rfl
  | cons field fields induction =>
      have here : fieldValues field position (front ++ (.name name, value) :: rest) =
          fieldValues field position (front ++ rest) := by
        rw [fieldValues_append, fieldValues_append, fieldValues_cons_name,
          if_neg (ignored field List.mem_cons_self)]
      rw [fieldsOfMembers_cons, fieldsOfMembers_cons, here,
        induction fun field member => ignored field (List.mem_cons_of_mem _ member)]

/-- A member under a name that no field goes by says nothing. -/
theorem record?_ignored (ignored : ∀ field ∈ fields, name ∉ field.names) (value : Data) :
    record? fields (.map (front ++ (.name name, value) :: rest)) =
      record? fields (.map (front ++ rest)) := by
  rw [record?, record?, fieldsOfMembers_ignored ignored, all_isField_name]

end Members

/-! ## Values that are replaced -/

/-- The values of two records, each field in a relation of its own. -/
inductive Aligned : List (Option Data → Option Data → Prop) → List (Option Data) →
    List (Option Data) → Prop
  | nil : Aligned [] [] []
  | cons {relation : Option Data → Option Data → Prop}
      {relations : List (Option Data → Option Data → Prop)} {value other : Option Data}
      {values others : List (Option Data)} (head : relation value other)
      (tail : Aligned relations values others) :
      Aligned (relation :: relations) (value :: values) (other :: others)

/-- The fields of two records agree: their values are aligned, or neither has any. -/
abbrev FieldsAgree (relations : List (Option Data → Option Data → Prop)) :
    Option (List (Option Data)) → Option (List (Option Data)) → Prop :=
  Option.Rel (Aligned relations)

section Agreement

variable {relation : Option Data → Option Data → Prop}
  {relations : List (Option Data → Option Data → Prop)}
  {values? others? : Option (List (Option Data))}

theorem FieldsAgree.exists_or_none (agree : FieldsAgree relations values? others?) :
    (∃ values others, values? = some values ∧ others? = some others ∧
      Aligned relations values others) ∨ values? = none ∧ others? = none := by
  cases agree with
  | some aligned => exact .inl ⟨_, _, rfl, rfl, aligned⟩
  | none => exact .inr ⟨rfl, rfl⟩

theorem FieldsAgree.cons {value other : Option Data} (head : relation value other)
    (tail : FieldsAgree relations values? others?) :
    FieldsAgree (relation :: relations) (values?.map (value :: ·)) (others?.map (other :: ·)) := by
  cases tail with
  | some tail => exact .some (.cons head tail)
  | none => exact .none

theorem FieldsAgree.bind {value? other? : Option (Option Data)}
    (head : Option.Rel relation value? other?) (tail : FieldsAgree relations values? others?) :
    FieldsAgree (relation :: relations) (value?.bind fun value => values?.map (value :: ·))
      (other?.bind fun other => others?.map (other :: ·)) := by
  cases head with
  | some head => exact tail.cons head
  | none => exact .none

/-- Relations for the fields of a record in which every value is with itself. -/
abbrev EachReflexive (fields : List Field) (relations : List (Option Data → Option Data → Prop)) :
    Prop :=
  List.Forall₂ (fun _ relation => ∀ value, relation value value) fields relations

end Agreement

section Replacement

variable {fields : List Field} {relations : List (Option Data → Option Data → Prop)}
  {value other : Data}

theorem rel_self {relation : Option Data → Option Data → Prop}
    (same : ∀ value, relation value value) (value? : Option (Option Data)) :
    Option.Rel relation value? value? := by
  cases value? with
  | none => exact .none
  | some value => exact .some (same value)

theorem fieldsAgree_members {members others : List (Key × Data)}
    (paired : List.Forall₂ (fun field relation => ∀ position, Option.Rel relation
      (single? (fieldValues field position members))
      (single? (fieldValues field position others))) fields relations) (position : Nat) :
    FieldsAgree relations (fieldsOfMembers members position fields)
      (fieldsOfMembers others position fields) := by
  induction paired generalizing position with
  | nil => exact .some .nil
  | cons here _ induction =>
      rw [fieldsOfMembers_cons, fieldsOfMembers_cons]
      exact .bind (here position) (induction (position + 1))

theorem fieldsAgree_items_self {items : List Data} (reflexive : EachReflexive fields relations) :
    FieldsAgree relations (fieldsOfItems fields items) (fieldsOfItems fields items) := by
  induction reflexive generalizing items with
  | nil =>
      cases items with
      | nil => exact .some .nil
      | cons => exact .none
  | cons same _ induction =>
      cases items with
      | nil =>
          rw [fieldsOfItems]
          split
          · exact .cons (same none) induction
          · exact .none
      | cons item items => exact .cons (same (some item)) induction

theorem fieldsAgree_items {front rest : List Data} (reflexive : EachReflexive fields relations)
    (replaced : ∀ relation, relations[front.length]? = some relation →
      relation (some value) (some other)) :
    FieldsAgree relations (fieldsOfItems fields (front ++ value :: rest))
      (fieldsOfItems fields (front ++ other :: rest)) := by
  induction front generalizing fields relations with
  | nil =>
      cases reflexive with
      | nil => exact .none
      | cons _ later => exact .cons (replaced _ rfl) (fieldsAgree_items_self later)
  | cons item front induction =>
      cases reflexive with
      | nil => exact .none
      | cons same later => exact .cons (same _) (induction later replaced)

theorem single?_replaced {relation : Option Data → Option Data → Prop}
    (replaced : relation (some value) (some other)) (before after : List Data) :
    Option.Rel relation (single? (before ++ value :: after))
      (single? (before ++ other :: after)) := by
  rcases before with _ | ⟨first, _ | ⟨second, more⟩⟩
  · cases after with
    | nil => exact .some replaced
    | cons => exact .none
  · exact .none
  · exact .none

/-- Where the value of one field is replaced, the values of all others stay what they are. -/
theorem fieldsAgree_replaced {front rest : List (Key × Data)} {name : String}
    (paired : List.Forall₂ (fun field relation => (∀ value, relation value value) ∧
      (name ∈ field.names → relation (some value) (some other))) fields relations) :
    FieldsAgree relations (record? fields (.map (front ++ (.name name, value) :: rest)))
      (record? fields (.map (front ++ (.name name, other) :: rest))) := by
  rw [record?, record?, all_isField_name, all_isField_name]
  split
  · apply fieldsAgree_members
    refine paired.imp fun field relation here position => ?_
    rcases here with ⟨same, replaced⟩
    rw [fieldValues_append, fieldValues_append, fieldValues_cons_name, fieldValues_cons_name]
    by_cases known : name ∈ field.names
    · rw [if_pos known, if_pos known]
      exact single?_replaced (replaced known) _ _
    · rw [if_neg known, if_neg known]
      exact rel_self same _
  · exact .none

/-- A record agrees with itself. -/
theorem fieldsAgree_self (reflexive : EachReflexive fields relations) (data : Data) :
    FieldsAgree relations (record? fields data) (record? fields data) := by
  cases data with
  | map members =>
      rw [record?]
      split
      · apply fieldsAgree_members
        exact reflexive.imp fun field relation same position => rel_self same _
      · exact .none
  | list items => exact fieldsAgree_items_self reflexive
  | _ => exact .none

end Replacement

/-! ## Values that hold others -/

/-- Lists and maps hold other values. -/
def isComposite : Data → Bool
  | .list _ => true
  | .map _ => true
  | _ => false

/-- Values of a field that a reader takes for the same. Whether there is a value at all, and whether
it is a plain one, is seen before it is read. -/
inductive Alike {α : Type} (read : Data → Option α) : Option Data → Option Data → Prop
  | same (value : Option Data) : Alike read value value
  | composite {value other : Data} (here : value.isComposite = true)
      (there : other.isComposite = true) (equal : read value = read other) :
      Alike read (some value) (some other)

section Readers

variable {α : Type} {read : Data → Option α}

theorem optional_some {value : Data} (here : value.isComposite = true) :
    optional read (some value) = (read value).map some := by
  cases value with
  | null => cases here
  | _ => rfl

theorem Alike.optional_eq {value other : Option Data} (alike : Alike read value other) :
    optional read value = optional read other := by
  cases alike with
  | same => rfl
  | composite here there equal => rw [optional_some here, optional_some there, equal]

theorem Alike.defaulted_eq {value other : Option Data} (alike : Alike read value other)
    (default : α) : defaulted default read value = defaulted default read other := by
  cases alike with
  | same => rfl
  | composite here there equal => exact equal

/-- One of the entries of a map: its name, and what its value is read as. -/
def pair? (read : Data → Option α) : Key × Data → Option (String × α)
  | (.name name, value) => (read value).map (name, ·)
  | _ => none

theorem entries?_map (members : List (Key × Data)) :
    entries? read (.map members) = (members.mapM (pair? read)).map (Entries.putAll []) := by
  rw [entries?, Option.map_eq_bind]
  refine congrArg (Option.bind · _) (congrArg (members.mapM ·) ?_)
  funext ⟨key, value⟩
  cases key <;> rfl

theorem mapM_replaced {β : Type} {read : β → Option α} {value other : β}
    (same : read value = read other) (front rest : List β) :
    (front ++ value :: rest).mapM read = (front ++ other :: rest).mapM read := by
  rw [List.mapM_append, List.mapM_append, List.mapM_cons, List.mapM_cons, same]

theorem list?_replaced {value other : Data} (same : read value = read other)
    (front rest : List Data) :
    list? read (.list (front ++ value :: rest)) = list? read (.list (front ++ other :: rest)) := by
  rw [list?, list?, mapM_replaced same]

theorem entries?_replaced {value other : Data} (same : read value = read other) (name : String)
    (front rest : List (Key × Data)) :
    entries? read (.map (front ++ (.name name, value) :: rest)) =
      entries? read (.map (front ++ (.name name, other) :: rest)) := by
  have here : pair? read (.name name, value) = pair? read (.name name, other) := by
    rw [pair?, pair?, same]
  rw [entries?_map, entries?_map, mapM_replaced here]

end Readers

end ApiGraph.Source.Data
