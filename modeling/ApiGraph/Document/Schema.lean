import ApiGraph.Json

namespace ApiGraph

/-! Schema definitions, as far as the type graph depends on them. -/

/-- A definition that stands in its place, or a reference to one that is declared elsewhere. -/
inductive Referable (α : Type) where
  | reference (path : String)
  | inline (value : α)
  deriving Repr

namespace Referable

def path? {α : Type} : Referable α → Option String
  | .reference path => some path
  | .inline _ => none

end Referable

inductive TypeName where
  | string
  | integer
  | number
  | boolean
  | array
  | object
  | null
  /-- Any other name. -/
  | unknown
  deriving DecidableEq, Repr

/-- A schema has one type, or any of several. -/
inductive TypeSet where
  | single (name : TypeName)
  | anyOf (names : List TypeName)
  deriving DecidableEq, Repr

/-- The first type other than null, which decides on the shape of the schema. -/
def TypeSet.primary? : TypeSet → Option TypeName
  | .single .null => none
  | .single name => some name
  | .anyOf names => names.find? (· != .null)

/-- Whether an object may have further properties, or what they have to be. -/
inductive AdditionalProperties (σ : Type) where
  | allowed (answer : Bool)
  | schema (value : σ)
  deriving Repr

structure Schema where
  type : Option TypeSet := none
  format : Option String := none
  title : Option String := none
  description : Option String := none
  properties : List (String × Referable Schema) := []
  required : List String := []
  items : Option (Referable Schema) := none
  additionalProperties : Option (AdditionalProperties (Referable Schema)) := none
  enumValues : List Json := []
  /-- A hint at the order of the properties. -/
  propertyOrder : Option (List String) := none
  /-- Names for the values of an enumeration. -/
  enumNames : Option (List String) := none

abbrev SchemaSlot := Referable Schema

namespace Schema

def primaryType? (schema : Schema) : Option TypeName := schema.type.bind TypeSet.primary?

/-- The title, or else the description. Neither counts while it is empty. -/
def summary? (schema : Schema) : Option String :=
  match schema.title.filter (· != "") with
  | some title => some title
  | none => schema.description.filter (· != "")

/-- What the additional properties have to be, where that is said. -/
def additionalSchema? (schema : Schema) : Option SchemaSlot :=
  match schema.additionalProperties with
  | some (.schema slot) => some slot
  | _ => none

def isRequired (schema : Schema) (property : String) : Bool := schema.required.contains property

/-! ## The order of properties -/

/-- The properties that a hint names, each where it is named first. -/
def hinted (properties : Entries SchemaSlot) : List String → List String → Entries SchemaSlot
  | _, [] => []
  | seen, name :: hint =>
      match Entries.value? properties name with
      | some slot =>
          if seen.contains name then hinted properties seen hint
          else (name, slot) :: hinted properties (name :: seen) hint
      | none => hinted properties seen hint

/-- The properties that a hint does not name. -/
def unhinted (properties : Entries SchemaSlot) (hint : List String) : Entries SchemaSlot :=
  properties.filter fun (name, _) => !hint.contains name

/-- The properties in the order in which they become fields: those of the hint first, then the
others as they are declared. -/
def orderedProperties (schema : Schema) : Entries SchemaSlot :=
  match schema.propertyOrder with
  | none => schema.properties
  | some hint => hinted schema.properties [] hint ++ unhinted schema.properties hint

end Schema

end ApiGraph
