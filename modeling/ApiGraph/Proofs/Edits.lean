import ApiGraph.Proofs.Places
import ApiGraph.Report
import Mathlib

namespace ApiGraph

/-! # Edits that no reader sees

Two JSON values may differ at the records of a document: the members of an object are written in
another order there, or there are members that no field answers to. What is read from them is the
same, and so is everything that is made of it. -/

open Source (Data Key)

namespace Place

/-- The records that are looked for in an object at a place, each by its fields. -/
def records : Place → List (List Data.Field)
  | .record kind => [kind.fields]
  | .slot kind => [referenceFields, kind.fields]
  | _ => []

/-- Whether the members of an object at a place are looked up by name, and not taken one after the
other. -/
def holdsRecord : Place → Bool
  | .record _ => true
  | .slot _ => true
  | _ => false

/-- An object at the place is taken for a record that has no field of the name. -/
def Ignores (place : Place) (name : String) : Prop :=
  place.holdsRecord = true ∧ ∀ fields ∈ place.records, ∀ field ∈ fields, name ∉ field.names

instance (place : Place) (name : String) : Decidable (place.Ignores name) :=
  inferInstanceAs (Decidable (_ ∧ _))

/-- The place of what stands under a name in an object. -/
def member? : Place → String → Option Place
  | .map value, _ => some value
  | .record kind, name => kind.member? name
  | .slot kind, name => kind.member? name
  | _, _ => none

/-- The place of what stands at an index of an array. -/
def item? : Place → Nat → Option Place
  | .list item, _ => some item
  | .record kind, index => kind.places[index]?
  | .slot kind, index => kind.places[index]?
  | _, _ => none

end Place

/-- One edit of a value at a place: members of an object change their order, or one that says
nothing comes or goes; or else there is such an edit further inside. -/
inductive Edit : Place → Json → Json → Prop
  | permute {place : Place} {members others : List (String × Json)}
      (struct : place.holdsRecord = true) (perm : members.Perm others) :
      Edit place (.object members) (.object others)
  | insert {place : Place} {name : String} (ignored : place.Ignores name)
      (front rest : List (String × Json)) (value : Json) :
      Edit place (.object (front ++ rest)) (.object (front ++ (name, value) :: rest))
  | delete {place : Place} {name : String} (ignored : place.Ignores name)
      (front rest : List (String × Json)) (value : Json) :
      Edit place (.object (front ++ (name, value) :: rest)) (.object (front ++ rest))
  | member {place inner : Place} {name : String} {value other : Json}
      (found : place.member? name = some inner) (edit : Edit inner value other)
      (front rest : List (String × Json)) :
      Edit place (.object (front ++ (name, value) :: rest))
        (.object (front ++ (name, other) :: rest))
  | item {place inner : Place} {front : List Json} {value other : Json}
      (found : place.item? front.length = some inner) (edit : Edit inner value other)
      (rest : List Json) :
      Edit place (.array (front ++ value :: rest)) (.array (front ++ other :: rest))

/-- A value after any number of edits. -/
abbrev Edits (place : Place) : Json → Json → Prop := Relation.ReflTransGen (Edit place)

/-! ## Data of edited values -/

namespace Source.Data

theorem ofMembers_eq_map (members : List (String × Json)) :
    ofMembers members = members.map fun member => (.name member.1, ofJson member.2) := by
  induction members with
  | nil => rfl
  | cons member rest induction => rw [ofMembers, induction, List.map_cons]

theorem ofItems_eq_map (items : List Json) : ofItems items = items.map ofJson := by
  induction items with
  | nil => rfl
  | cons item rest induction => rw [ofItems, induction, List.map_cons]

end Source.Data

namespace Place

variable {place : Place}

/-- What is read from an object depends on the records that are found in it. -/
theorem read_eq_of_records {members others : List (Key × Data)}
    (struct : place.holdsRecord = true)
    (same : ∀ fields ∈ place.records,
      Data.record? fields (.map members) = Data.record? fields (.map others)) :
    place.read (.map members) = place.read (.map others) := by
  cases place with
  | record kind => exact kind.read_eq_of_record?_eq (same _ (.head _))
  | slot kind =>
      apply Referable.ofData?_congr
      · rw [reference?, reference?, same _ (.head _)]
      · exact kind.read_eq_of_record?_eq (same _ (.tail _ (.head _)))
  | _ => cases struct

theorem read_eq_of_perm {members others : List (Key × Data)}
    (struct : place.holdsRecord = true) (perm : members.Perm others) :
    place.read (.map members) = place.read (.map others) :=
  read_eq_of_records struct fun fields _ => Data.record?_perm perm fields

theorem read_eq_of_ignored {name : String} (ignored : place.Ignores name)
    (front rest : List (Key × Data)) (value : Data) :
    place.read (.map (front ++ (.name name, value) :: rest)) =
      place.read (.map (front ++ rest)) :=
  read_eq_of_records ignored.1 fun fields member =>
    Data.record?_ignored (ignored.2 fields member) value

theorem read_eq_of_member {inner : Place} {name : String} {value other : Data}
    (found : place.member? name = some inner) (alike : inner.Alike (some value) (some other))
    (same : inner.read value = inner.read other) (front rest : List (Key × Data)) :
    place.read (.map (front ++ (.name name, value) :: rest)) =
      place.read (.map (front ++ (.name name, other) :: rest)) := by
  cases place with
  | map inside =>
      cases found
      exact Data.entries?_replaced same name front rest
  | record kind => exact kind.read_eq_of_member found alike
  | slot kind =>
      have different : name ≠ "$ref" := by
        rintro rfl
        rw [member?, kind.member?_reference] at found
        cases found
      apply Referable.ofData?_congr
      · rw [reference?_ignored different, reference?_ignored different]
      · exact kind.read_eq_of_member found alike
  | _ => cases found

theorem read_eq_of_item {inner : Place} {front : List Data} {value other : Data}
    (found : place.item? front.length = some inner) (alike : inner.Alike (some value) (some other))
    (same : inner.read value = inner.read other) (rest : List Data) :
    place.read (.list (front ++ value :: rest)) = place.read (.list (front ++ other :: rest)) := by
  cases place with
  | list inside =>
      cases found
      exact Data.list?_replaced same front rest
  | record kind => exact kind.read_eq_of_item found alike
  | slot kind =>
      apply Referable.ofData?_congr
      · rfl
      · exact kind.read_eq_of_item found alike
  | _ => cases found

end Place

/-! ## Edits -/

namespace Edit

variable {place : Place} {value other : Json}

theorem isComposite (edit : Edit place value other) :
    (Data.ofJson value).isComposite = true ∧ (Data.ofJson other).isComposite = true := by
  cases edit <;> exact ⟨rfl, rfl⟩

/-- An edit changes nothing of what is read. -/
theorem read_eq (edit : Edit place value other) :
    place.read (.ofJson value) = place.read (.ofJson other) := by
  induction edit with
  | permute struct perm =>
      simp only [Data.ofJson, Data.ofMembers_eq_map]
      exact Place.read_eq_of_perm struct (perm.map _)
  | insert ignored front rest value =>
      simp only [Data.ofJson, Data.ofMembers_eq_map, List.map_append, List.map_cons]
      exact (Place.read_eq_of_ignored ignored _ _ _).symm
  | delete ignored front rest value =>
      simp only [Data.ofJson, Data.ofMembers_eq_map, List.map_append, List.map_cons]
      exact Place.read_eq_of_ignored ignored _ _ _
  | member found edit front rest same =>
      simp only [Data.ofJson, Data.ofMembers_eq_map, List.map_append, List.map_cons]
      have alike := Place.Alike.of_read_eq edit.isComposite.1 edit.isComposite.2 same
      exact Place.read_eq_of_member found alike same _ _
  | @item place inner front value other found edit rest same =>
      simp only [Data.ofJson, Data.ofItems_eq_map, List.map_append, List.map_cons]
      have alike := Place.Alike.of_read_eq edit.isComposite.1 edit.isComposite.2 same
      rw [← List.length_map Data.ofJson] at found
      exact Place.read_eq_of_item found alike same _

end Edit

/-- Nothing is changed by any number of edits, at any place: a slot, for one, stays the reference or
the definition that it is. -/
theorem Edits.read_eq {place : Place} {value other : Json} (edits : Edits place value other) :
    place.read (.ofJson value) = place.read (.ofJson other) := by
  induction edits with
  | refl => rfl
  | tail _ edit same => exact same.trans edit.read_eq

/-- Documents that differ by edits are read as the same document or are no documents alike. Their
operations are the same, in the same order, and so is the report of a build. -/
theorem Document.read_eq_of_edits {value other : Json}
    (edits : Edits (.record .document) value other) :
    ofJson? value = ofJson? other ∧
      (ofJson? value).map operations = (ofJson? other).map operations ∧
      ∀ config, (ofJson? value).map (fun document => (build document config).map Build.report) =
        (ofJson? other).map fun document => (build document config).map Build.report := by
  have same : ofJson? value = ofJson? other := edits.read_eq
  rw [same]
  exact ⟨rfl, rfl, fun _ => rfl⟩

/-- The members of a document with one operation, whose only response is declared elsewhere. The
path and the response have further members before their own. -/
def Document.referringMembers (path response : Entries Json) : Entries Json := [
  ("openapi", .string "3.0.3"),
  ("paths", .object [("/pets", .object (path ++ [
    ("get", .object [("responses", .object [("200", .object (response ++ [
      ("$ref", .string "#/components/responses/Pets")]))])])]))])]

/-- No path is a reference, and a response has no properties, so neither is seen. -/
theorem Document.read_eq_of_edits_referring :
    let value := Json.object (referringMembers [] [])
    let other := Json.object (("$ref", .null) ::
      (referringMembers [("$ref", .null)] [("properties", .object [])]).reverse)
    Edits (.record .document) value other ∧ ofJson? value = ofJson? other ∧
      (ofJson? other).map (fun document => document.operations.map fun entry =>
        (entry.path, entry.method, entry.operation.responses.map fun (status, response) =>
          (status, response.path?))) =
        some [("/pets", .get, [("200", some "#/components/responses/Pets")])] := by
  have unknown : (Place.record .pathItem).Ignores "$ref" := by decide
  have atPath : Edit (.record .document) (.object (referringMembers [] []))
      (.object (referringMembers [("$ref", .null)] [])) :=
    .member rfl (.member rfl (.insert unknown [] _ .null) [] []) [_] []
  have unread : (Place.slot .response).Ignores "properties" := by decide
  have atResponse : Edit (.record .document) (.object (referringMembers [("$ref", .null)] []))
      (.object (referringMembers [("$ref", .null)] [("properties", .object [])])) := by
    refine .member rfl (.member rfl (.member rfl (.member rfl (.member rfl ?_ [] []) [] []) [_] [])
      [] []) [_] []
    exact .insert unread [] _ (.object [])
  have absent : (Place.record .document).Ignores "$ref" := by decide
  have edits := ((Relation.ReflTransGen.single atPath).tail atResponse).tail
    (.permute rfl (List.reverse_perm _).symm)
  have edits := edits.tail (.insert absent [] _ .null)
  exact ⟨edits, (Document.read_eq_of_edits edits).1, by decide +kernel⟩

end ApiGraph
