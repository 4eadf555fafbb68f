import ApiGraph.Document.Reader
import ApiGraph.Proofs.Records
import Mathlib

namespace ApiGraph

/-! # The reader of schemas

Schemas are read by functions that call each other, each on a part of its data. Here they are told
apart again: slots and maps of slots are read as they are elsewhere, and a schema is read field by
field from the values that its record has. -/

open Source (Data Key)

/-- Whether an object may have further properties is said by a truth value or by a schema. -/
def AdditionalProperties.ofData? : Data → Option (AdditionalProperties SchemaSlot)
  | .bool answer => some (.allowed answer)
  | data => (Schema.slotOfData? data).map .schema

theorem AdditionalProperties.ofData?_composite {data : Data} (here : data.isComposite = true) :
    ofData? data = (Schema.slotOfData? data).map .schema := by
  cases data with
  | bool => cases here
  | _ => rfl

theorem AdditionalProperties.alike {value other : Option Data}
    (alike : Data.Alike Schema.slotOfData? value other) : Data.Alike ofData? value other := by
  cases alike with
  | same => exact .same value
  | composite here there equal =>
      refine .composite here there ?_
      rw [ofData?_composite here, ofData?_composite there, equal]

namespace Schema

/-- The schema whose fields have the values. -/
def ofValues? : List (Option Data) → Option Schema
  | [type, format, title, description, properties, required, items, additional, enum, order,
      names] => do
      let type ← Data.optional TypeSet.ofData? type
      let format ← Data.optional Data.text? format
      let title ← Data.optional Data.text? title
      let description ← Data.optional Data.text? description
      let properties ← Data.defaulted [] (Data.entries? slotOfData?) properties
      let required ← Data.defaulted [] (Data.list? Data.text?) required
      let items ← Data.optional slotOfData? items
      let additional ← Data.optional AdditionalProperties.ofData? additional
      let enumValues ← Data.defaulted [] (Data.list? Data.toJson?) enum
      let propertyOrder ← Data.optional (Data.list? Data.text?) order
      let enumNames ← Data.optional (Data.list? Data.text?) names
      return {
        type := type
        format := format
        title := title
        description := description
        properties := properties
        required := required
        items := items
        additionalProperties := additional
        enumValues := enumValues
        propertyOrder := propertyOrder
        enumNames := enumNames }
  | _ => none

/-- A slot is read like any other. -/
theorem slotOfData?_eq : slotOfData? = Referable.ofData? ofData? := by
  funext data
  rw [slotOfData?, Referable.ofData?]

theorem slotsOfMembers?_eq (members : List (Key × Data)) :
    slotsOfMembers? members = members.mapM (Data.pair? slotOfData?) := by
  induction members with
  | nil =>
      rw [slotsOfMembers?]
      rfl
  | cons member rest induction =>
      rcases member with ⟨key, value⟩
      cases key with
      | name name =>
          rw [slotsOfMembers?, List.mapM_cons, induction, Data.pair?]
          cases slotOfData? value <;> cases rest.mapM (Data.pair? slotOfData?) <;> rfl
      | index position =>
          rw [slotsOfMembers?]
          · rfl
          · simp
      | other =>
          rw [slotsOfMembers?]
          · rfl
          · simp

theorem slotsOfData?_eq : slotsOfData? = Data.entries? slotOfData? := by
  funext data
  cases data with
  | map members => rw [slotsOfData?, slotsOfMembers?_eq, Data.entries?_map]
  | _ =>
      rw [slotsOfData?]
      · rfl
      · simp

/-! The fields that hold schemas are taken apart where they are read. -/

section Parts

variable {β : Type}

theorem bind_properties (properties : Option Data) (next : Entries SchemaSlot → Option β) :
    (match _ : properties with
      | none => some [] >>= next
      | some members => slotsOfData? members >>= next) =
      Data.defaulted [] (Data.entries? slotOfData?) properties >>= next := by
  rw [slotsOfData?_eq]
  cases properties <;> rfl

theorem bind_items (items : Option Data) (next : Option SchemaSlot → Option β) :
    (match _ : items with
      | none => some none >>= next
      | some .null => some none >>= next
      | some item => (slotOfData? item).map some >>= next) =
      Data.optional slotOfData? items >>= next := by
  rcases items with _ | item
  · rfl
  · cases item <;> rfl

theorem bind_additional (additional : Option Data)
    (next : Option (AdditionalProperties SchemaSlot) → Option β) :
    (match _ : additional with
      | none => some none >>= next
      | some .null => some none >>= next
      | some (.bool answer) => some (some (.allowed answer)) >>= next
      | some value => ((slotOfData? value).map fun slot => some (.schema slot)) >>= next) =
      Data.optional AdditionalProperties.ofData? additional >>= next := by
  have inside (value : Data) : ((slotOfData? value).map fun slot => some (.schema slot)) =
      ((slotOfData? value).map .schema).map (some : AdditionalProperties SchemaSlot → _) :=
    (Option.map_map ..).symm
  rcases additional with _ | value
  · rfl
  · cases value with
    | null => rfl
    | bool answer => rfl
    | _ => exact congrArg (· >>= next) (inside _)

end Parts

theorem ofData?_eq (data : Data) : ofData? data = (data.record? fields).bind ofValues? := by
  rw [ofData?]
  split
  next type format title description properties required items additional enum order names found =>
    rw [found, Option.bind_some, ofValues?]
    refine bind_congr fun type => bind_congr fun format => bind_congr fun title =>
      bind_congr fun description => ?_
    refine (bind_properties properties _).trans ?_
    refine bind_congr fun properties => bind_congr fun required => ?_
    refine (bind_items items _).trans (bind_congr fun items => ?_)
    exact bind_additional additional _
  next others =>
    cases found : data.record? fields with
    | none => rfl
    | some values =>
        rw [Option.bind_some]
        unfold ofValues?
        split
        · exact absurd found (others _ _ _ _ _ _ _ _ _ _ _)
        · rfl

end Schema

end ApiGraph
