import ApiGraph.Json

namespace ApiGraph

/-! The types of an interface. A type either has a name of its own and is shared by all that refer
to it, or stands inside the type that uses it. How a named type is referred to is a parameter `ρ`:
in a registry by its number, in a report by its name. -/

inductive Primitive where
  | int
  | float
  | string
  | bool
  | binary
  | unknown
  deriving DecidableEq, Repr

def Primitive.name : Primitive → String
  | .int => "int"
  | .float => "float"
  | .string => "string"
  | .bool => "bool"
  | .binary => "binary"
  | .unknown => "unknown"

/-- A value of an enumeration, which may have a name. -/
structure EnumEntry where
  name : Option String := none
  value : Json

/-- A named place for a value of type `τ`: a property of an object or a parameter of a handler. -/
structure Field (τ : Type) where
  name : String
  description : Option String := none
  type : τ
  required : Bool := false

mutual

inductive TypeRef (ρ : Type) where
  | named (target : ρ)
  | inline (shape : Shape ρ)

inductive Shape (ρ : Type) where
  | primitive (primitive : Primitive) (entries : List EnumEntry)
  | object (fields : List (Field (TypeRef ρ)))
  | array (element : TypeRef ρ)
  | map (value : TypeRef ρ)

end

abbrev TypeField (ρ : Type) := Field (TypeRef ρ)

namespace Shape

variable {ρ σ : Type}

def unknown : Shape ρ := .primitive .unknown []

instance : Inhabited (Shape ρ) := ⟨unknown⟩

/-- The fields of an object. No other shape has any. -/
def fields : Shape ρ → List (TypeField ρ)
  | .object fields => fields
  | _ => []

def field? (shape : Shape ρ) (name : String) : Option (TypeField ρ) :=
  shape.fields.find? fun field => field.name == name

def element? : Shape ρ → Option (TypeRef ρ)
  | .array element => some element
  | _ => none

def isObject : Shape ρ → Bool
  | .object _ => true
  | _ => false

/-- The types that a shape is directly made of. -/
def children : Shape ρ → List (TypeRef ρ)
  | .primitive _ _ => []
  | .object fields => fields.map Field.type
  | .array element => [element]
  | .map value => [value]

end Shape

/-! ## Named types inside a type

`targets` lists the named types that a type refers to, from left to right: its own name, or those
found inside it without looking into any named type. -/

mutual

def TypeRef.targets {ρ : Type} : TypeRef ρ → List ρ
  | .named target => [target]
  | .inline shape => shape.targets

def Shape.targets {ρ : Type} : Shape ρ → List ρ
  | .primitive _ _ => []
  | .object fields => fieldTargets fields
  | .array element => element.targets
  | .map value => value.targets

def fieldTargets {ρ : Type} : List (Field (TypeRef ρ)) → List ρ
  | [] => []
  | ⟨_, _, type, _⟩ :: rest => type.targets ++ fieldTargets rest

end

/-! ## Other names for the named types -/

mutual

def TypeRef.rename {ρ σ : Type} (rename : ρ → σ) : TypeRef ρ → TypeRef σ
  | .named target => .named (rename target)
  | .inline shape => .inline (shape.rename rename)

def Shape.rename {ρ σ : Type} (rename : ρ → σ) : Shape ρ → Shape σ
  | .primitive primitive entries => .primitive primitive entries
  | .object fields => .object (renameFields rename fields)
  | .array element => .array (element.rename rename)
  | .map value => .map (value.rename rename)

def renameFields {ρ σ : Type} (rename : ρ → σ) :
    List (Field (TypeRef ρ)) → List (Field (TypeRef σ))
  | [] => []
  | ⟨name, description, type, required⟩ :: rest =>
      ⟨name, description, type.rename rename, required⟩ :: renameFields rename rest

end

/-! ## Inline types

The number of types that stand inside another one, at any depth. -/

mutual

def TypeRef.inlineCount {ρ : Type} : TypeRef ρ → Nat
  | .named _ => 0
  | .inline shape => shape.inlineCount + 1

def Shape.inlineCount {ρ : Type} : Shape ρ → Nat
  | .primitive _ _ => 0
  | .object fields => fieldInlineCount fields
  | .array element => element.inlineCount
  | .map value => value.inlineCount

def fieldInlineCount {ρ : Type} : List (Field (TypeRef ρ)) → Nat
  | [] => 0
  | ⟨_, _, type, _⟩ :: rest => type.inlineCount + fieldInlineCount rest

end

example :
    let shape : Shape String :=
      .object [⟨"owner", none, .named "Owner", true⟩,
        ⟨"tags", none, .inline (.array (.named "Tag")), false⟩]
    shape.targets = ["Owner", "Tag"] ∧ shape.inlineCount = 1 := by
  simp [Shape.targets, TypeRef.targets, fieldTargets, Shape.inlineCount, TypeRef.inlineCount,
    fieldInlineCount]

end ApiGraph
