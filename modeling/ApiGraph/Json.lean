import ApiGraph.Decimal.Binary64
import ApiGraph.Entries

namespace ApiGraph

/-! JSON values. Members of an object keep their order. A number remembers whether it was written as
an integer: `1` and `1.0` are different values. -/

inductive Number where
  | integer (value : Int)
  | real (value : Decimal.Binary64)
  deriving DecidableEq, Repr

inductive Json where
  | null
  | bool (value : Bool)
  | number (value : Number)
  | string (value : String)
  | array (items : List Json)
  | object (members : List (String × Json))
  deriving Inhabited

namespace Json

def nat (value : Nat) : Json := .number (.integer value)

def strings (values : List String) : Json := .array (values.map .string)

/-- The value of a member of an object. -/
def member? (value : Json) (name : String) : Option Json :=
  match value with
  | .object members => Entries.value? members name
  | _ => none

def string? : Json → Option String
  | .string value => some value
  | _ => none

def array? : Json → Option (List Json)
  | .array items => some items
  | _ => none

/-- Members of a record whose value may be missing: a missing one is left out. -/
def optionalMember {α : Type} (name : String) (encode : α → Json) : Option α → Entries Json
  | none => []
  | some value => [(name, encode value)]

end Json

end ApiGraph
