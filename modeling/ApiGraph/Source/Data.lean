import ApiGraph.Json

namespace ApiGraph.Source

/-! The data that a description or configuration holds, whatever format it was written in. Maps may
repeat a key, and in some formats a key need not be text. -/

inductive Key where
  | name (text : String)
  | index (position : Nat)
  | other
  deriving DecidableEq, Repr

inductive Data where
  | null
  | bool (value : Bool)
  | number (value : Number)
  /-- An infinity, or no number at all. -/
  | unbounded
  | text (value : String)
  | list (items : List Data)
  | map (members : List (Key × Data))

namespace Data

/-! ## JSON values -/

mutual

def ofJson : Json → Data
  | .null => .null
  | .bool value => .bool value
  | .number value => .number value
  | .string value => .text value
  | .array items => .list (ofItems items)
  | .object members => .map (ofMembers members)

def ofItems : List Json → List Data
  | [] => []
  | item :: rest => ofJson item :: ofItems rest

def ofMembers : List (String × Json) → List (Key × Data)
  | [] => []
  | (name, value) :: rest => (.name name, ofJson value) :: ofMembers rest

end

mutual

/-- The data as a JSON value. Keys have to be text, a repeated key keeps its first place and its
last value, and what has no JSON number becomes null. -/
def toJson? : Data → Option Json
  | .null => some .null
  | .bool value => some (.bool value)
  | .number value => some (.number value)
  | .unbounded => some .null
  | .text value => some (.string value)
  | .list items => (toItems? items).map .array
  | .map members => (toMembers? members).map fun entries => .object (Entries.putAll [] entries)

def toItems? : List Data → Option (List Json)
  | [] => some []
  | item :: rest =>
      match toJson? item, toItems? rest with
      | some value, some values => some (value :: values)
      | _, _ => none

def toMembers? : List (Key × Data) → Option (Entries Json)
  | [] => some []
  | (.name name, item) :: rest =>
      match toJson? item, toMembers? rest with
      | some value, some values => some ((name, value) :: values)
      | _, _ => none
  | _ :: _ => none

end

/-! ## Plain values -/

def text? : Data → Option String
  | .text value => some value
  | _ => none

def bool? : Data → Option Bool
  | .bool value => some value
  | _ => none

/-- One choice out of several: its name, or a map whose only member names it and holds nothing. -/
def choice? : Data → Option Key
  | .text name => some (.name name)
  | .map [(key, .null)] => some key
  | _ => none

def list? {α : Type} (read : Data → Option α) : Data → Option (List α)
  | .list items => items.mapM read
  | _ => none

/-- Entries under names that need not be distinct: a repeated name keeps its first place and takes
its last value. -/
def entries? {α : Type} (read : Data → Option α) : Data → Option (Entries α)
  | .map members => do
      let entries ← members.mapM fun (key, value) =>
        match key with
        | .name name => (read value).map (name, ·)
        | _ => none
      return Entries.putAll [] entries
  | _ => none

/-! ## Records

A record is a map with known members, or a list of their values in the order of their declaration.
Members under other names say nothing. A field may go by several names, of which at most one may
occur, and a number used as a key means the field at that position. -/

structure Field where
  names : List String
  /-- Whether the value may be left out at the end of a list. -/
  omissible : Bool

def Field.answersTo (field : Field) (position : Nat) : Key → Bool
  | .name name => field.names.contains name
  | .index index => index == position
  | .other => false

def Key.isField : Key → Bool
  | .other => false
  | _ => true

/-- The values of all members that belong to a field. -/
def fieldValues (field : Field) (position : Nat) (members : List (Key × Data)) : List Data :=
  (members.filter fun (key, _) => field.answersTo position key).map Prod.snd

def fieldsOfMembers (members : List (Key × Data)) (position : Nat) :
    List Field → Option (List (Option Data))
  | [] => some []
  | field :: fields =>
      match fieldValues field position members, fieldsOfMembers members (position + 1) fields with
      | [], some values => some (none :: values)
      | [value], some values => some (some value :: values)
      | _, _ => none

def fieldsOfItems : List Field → List Data → Option (List (Option Data))
  | [], [] => some []
  | [], _ :: _ => none
  | _ :: fields, item :: items => (fieldsOfItems fields items).map (some item :: ·)
  | field :: fields, [] =>
      if field.omissible then (fieldsOfItems fields []).map (none :: ·) else none

/-- The value of each field, in the order of the fields; a field without a value has none. -/
def record? (fields : List Field) : Data → Option (List (Option Data))
  | .map members =>
      if members.all fun (key, _) => Key.isField key then fieldsOfMembers members 0 fields else none
  | .list items => fieldsOfItems fields items
  | _ => none

/-! How the value of a field is read: it has to be there, may be missing or null, or may be
missing. -/

def required {α : Type} (read : Data → Option α) : Option Data → Option α
  | none => none
  | some value => read value

def optional {α : Type} (read : Data → Option α) : Option Data → Option (Option α)
  | none => some none
  | some .null => some none
  | some value => (read value).map some

def defaulted {α : Type} (value : α) (read : Data → Option α) : Option Data → Option α
  | none => some value
  | some data => read data

/-! The values found for the fields are parts of the data they are found in. -/

theorem mem_fieldValues {field : Field} {position : Nat} {members : List (Key × Data)}
    {value : Data}
    (member : value ∈ fieldValues field position members) : ∃ key, (key, value) ∈ members := by
  obtain ⟨⟨key, found⟩, filtered, rfl⟩ := List.mem_map.mp member
  exact ⟨key, (List.mem_filter.mp filtered).1⟩

theorem mem_of_mem_fieldsOfMembers {fields : List Field} {position : Nat}
    {members : List (Key × Data)} {values : List (Option Data)} {value : Data}
    (found : fieldsOfMembers members position fields = some values) (member : some value ∈ values) :
    ∃ key, (key, value) ∈ members := by
  induction fields generalizing position values with
  | nil =>
      simp only [fieldsOfMembers, Option.some.injEq] at found
      simp [← found] at member
  | cons field fields induction =>
      unfold fieldsOfMembers at found
      split at found
      next rest _ equal =>
        cases found
        rcases List.mem_cons.mp member with impossible | member
        · cases impossible
        · exact induction equal member
      next single rest here equal =>
        cases found
        rcases List.mem_cons.mp member with same | member
        · cases same
          exact mem_fieldValues (here ▸ List.mem_singleton.mpr rfl)
        · exact induction equal member
      next => cases found

theorem mem_of_mem_fieldsOfItems {fields : List Field} {items : List Data}
    {values : List (Option Data)} {value : Data}
    (found : fieldsOfItems fields items = some values) (member : some value ∈ values) :
    value ∈ items := by
  induction fields generalizing items values with
  | nil =>
      cases items with
      | nil =>
          simp only [fieldsOfItems, Option.some.injEq] at found
          simp [← found] at member
      | cons => simp [fieldsOfItems] at found
  | cons field fields induction =>
      cases items with
      | nil =>
          simp only [fieldsOfItems] at found
          split at found
          · obtain ⟨rest, equal, rfl⟩ := Option.map_eq_some_iff.mp found
            rcases List.mem_cons.mp member with impossible | member
            · cases impossible
            · exact induction equal member
          · cases found
      | cons item items =>
          simp only [fieldsOfItems] at found
          obtain ⟨rest, equal, rfl⟩ := Option.map_eq_some_iff.mp found
          rcases List.mem_cons.mp member with same | member
          · cases same
            exact List.mem_cons_self
          · exact List.mem_cons_of_mem _ (induction equal member)

theorem sizeOf_lt_of_mem_record? {fields : List Field} {data value : Data}
    {values : List (Option Data)} (found : record? fields data = some values)
    (member : some value ∈ values) : sizeOf value < sizeOf data := by
  cases data with
  | map members =>
      simp only [record?] at found
      split at found
      · obtain ⟨key, inside⟩ := mem_of_mem_fieldsOfMembers found member
        have smaller := List.sizeOf_lt_of_mem inside
        simp only [Prod.mk.sizeOf_spec] at smaller
        simp only [Data.map.sizeOf_spec]
        omega
      · cases found
  | list items =>
      have smaller := List.sizeOf_lt_of_mem (mem_of_mem_fieldsOfItems found member)
      simp only [Data.list.sizeOf_spec]
      omega
  | _ => cases found

end Data

end ApiGraph.Source
