import ApiGraph.Json
import ApiGraph.Proofs.Related

namespace ApiGraph

/-! # JSON values that are read

A reader of a JSON value looks up members by name and goes through the items of arrays. It sees
neither in which order the members of an object stand nor the sign of a zero. -/

namespace Json

/-! ## Parts

Members and items are smaller than the value that they are part of, which lets a reader go on inside
them. -/

def bool? : Json → Option Bool
  | .bool value => some value
  | _ => none

/-- A member that is a text. -/
def text? (json : Json) (name : String) : Option String := (json.member? name).bind string?

@[simp] theorem bool?_bool (value : Bool) : (Json.bool value).bool? = some value := rfl

@[simp] theorem string?_string (value : String) : (Json.string value).string? = some value := rfl

@[simp] theorem array?_array (items : List Json) : (Json.array items).array? = some items := rfl

@[simp] theorem member?_object (members : Entries Json) (name : String) :
    (Json.object members).member? name = Entries.value? members name := rfl

@[simp] theorem text?_object (members : Entries Json) (name : String) :
    (Json.object members).text? name = (Entries.value? members name).bind string? := rfl

theorem sizeOf_lt_of_member? {json value : Json} {name : String}
    (found : json.member? name = some value) : sizeOf value < sizeOf json := by
  cases json with
  | object members =>
      have member := Entries.mem_of_value?_eq_some found
      have entry := List.sizeOf_lt_of_mem member
      simp only [Prod.mk.sizeOf_spec, Json.object.sizeOf_spec] at entry ⊢
      omega
  | _ => cases found

theorem sizeOf_lt_of_memberItems? {json : Json} {items : List Json} {name : String}
    (found : (json.member? name).bind array? = some items) : sizeOf items < sizeOf json := by
  rcases Option.bind_eq_some_iff.mp found with ⟨value, member, listed⟩
  have smaller := sizeOf_lt_of_member? member
  cases value with
  | array others =>
      cases listed
      simp only [Json.array.sizeOf_spec] at smaller
      omega
  | _ => cases listed

/-- A member with the proof that it is smaller. -/
def part? (json : Json) (name : String) : Option { value : Json // sizeOf value < sizeOf json } :=
  match found : json.member? name with
  | some value => some ⟨value, sizeOf_lt_of_member? found⟩
  | none => none

def items? (json : Json) (name : String) :
    Option { items : List Json // sizeOf items < sizeOf json } :=
  match json.part? name with
  | some ⟨.array items, smaller⟩ => some ⟨items, by
      simp only [Json.array.sizeOf_spec] at smaller
      omega⟩
  | _ => none

variable {α : Type}

theorem bind_part? (json : Json) (name : String) (next : Json → Option α) :
    ((json.part? name).bind fun part => next part.val) = (json.member? name).bind next := by
  rw [part?]
  split
  next found => exact (congrArg (Option.bind · next) found).symm
  next absent => exact (congrArg (Option.bind · next) absent).symm

theorem bind_items? (json : Json) (name : String) (next : List Json → Option α) :
    ((json.items? name).bind fun items => next items.val) =
      ((json.member? name).bind array?).bind next := by
  rw [← bind_part?, items?]
  cases json.part? name with
  | none => rfl
  | some part =>
      rcases part with ⟨value, smaller⟩
      cases value <;> rfl

/-! ## Equality of values -/

/-- Two values are the same data. -/
inductive Alike : Json → Json → Prop where
  | refl (value : Json) : Alike value value
  | zero {first second : Decimal.Binary64} (firstZero : first.isZero) (secondZero : second.isZero) :
      Alike (.number (.real first)) (.number (.real second))
  | array {left right : List Json} (items : List.Forall₂ Alike left right) :
      Alike (.array left) (.array right)
  | object {left right : Entries Json}
      (members : ∀ name, Option.Rel Alike (Entries.value? left name) (Entries.value? right name)) :
      Alike (.object left) (.object right)

namespace Alike

variable {left right : Json} (alike : left.Alike right)

include alike

theorem member? (name : String) :
    Option.Rel Alike (left.member? name) (right.member? name) := by
  cases alike with
  | refl => exact rel_refl Alike.refl _
  | object members => exact members name
  | _ => exact .none

theorem string? : left.string? = right.string? := by
  cases alike <;> rfl

theorem bool? : left.bool? = right.bool? := by
  cases alike <;> rfl

theorem array? : Option.Rel (List.Forall₂ Alike) left.array? right.array? := by
  cases alike with
  | refl => exact rel_refl (fun items => List.forall₂_same.mpr fun item _ => .refl item) _
  | array items => exact .some items
  | _ => exact .none

/-- What is read off a member alike in both values is the same. -/
theorem bind_member?_eq {α : Type} {read : Json → Option α}
    (same : ∀ {first second : Json}, first.Alike second → read first = read second)
    (name : String) : (left.member? name).bind read = (right.member? name).bind read := by
  have related := alike.member? name
  generalize left.member? name = first, right.member? name = second at related
  cases related with
  | none => rfl
  | some held => exact same held

theorem text? (name : String) : left.text? name = right.text? name :=
  alike.bind_member?_eq Alike.string? name

theorem memberItems? (name : String) :
    Option.Rel (List.Forall₂ Alike) ((left.member? name).bind Json.array?)
      ((right.member? name).bind Json.array?) :=
  rel_bind (alike.member? name) fun _ _ _ held => held.array?

end Alike

end Json

end ApiGraph
