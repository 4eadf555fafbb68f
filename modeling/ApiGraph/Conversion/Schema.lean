import ApiGraph.Conversion.Outline
import ApiGraph.Conversion.Progress
import ApiGraph.Pointer

namespace ApiGraph

/-! The conversion of schema definitions into types.

A component is registered before its definition is walked, so a reference that leads back to it ends
at the type that is being made. Definitions inside other definitions become inline types. -/

/-! ## Summaries -/

/-- The definition that a reference means. -/
def Document.definition? (document : Document) (path : String) : Option SchemaSlot :=
  (Pointer.schema? path).bind document.schema?

/-- The summary of the definition that is reached within so many steps. -/
def Document.summaryWithin (document : Document) : Nat → SchemaSlot → Option String
  | 0, _ => none
  | _ + 1, .inline schema => schema.summary?
  | steps + 1, .reference path =>
      match document.definition? path with
      | some slot => document.summaryWithin steps slot
      | none => none

/-- The summary of a property: a reference has that of the definition it leads to. No chain of
references is longer than the list of components. -/
def Document.summaryOf (document : Document) (slot : SchemaSlot) : Option String :=
  document.summaryWithin (document.components.schemas.length + 1) slot

/-! ## Chains of references

A component that is only a reference is another name for the definition that the reference leads
to. -/

/-- Where a chain of references ends: at a type that is registered, or at a definition that is
not. -/
inductive ChainEnd (document : Document) (registry : Registry) where
  | registered (id : TypeId)
  | concrete (name : String) (schema : Schema)
      (declared : document.schema? name = some (.inline schema))
      (fresh : registry.isBound name = false)

/-- The declared schema that a reference names. -/
def Document.target? (document : Document) (path : String) :
    Option { name : String // (document.schema? name).isSome } :=
  match Pointer.schema? path with
  | none => none
  | some name =>
      if declared : (document.schema? name).isSome then some ⟨name, declared⟩ else none

/-- The components whose names do not occur in a chain. -/
def Document.offChain (document : Document) (chain : List String) : Nat :=
  document.components.schemas.countP fun (name, _) => !chain.contains name

theorem Document.offChain_cons_lt {document : Document} {chain : List String} {name : String}
    (declared : (document.schema? name).isSome) (absent : name ∉ chain) :
    document.offChain (name :: chain) < document.offChain chain := by
  obtain ⟨slot, found⟩ := Option.isSome_iff_exists.mp declared
  refine countP_lt_countP (Entries.mem_of_value?_eq_some found) ?_ ?_ ?_
  · rintro ⟨other, _⟩ _ counted
    simp only [List.contains_cons, Bool.not_eq_true', Bool.or_eq_false_iff] at counted ⊢
    exact counted.2
  · simpa using absent
  · simp

/-- Follow the reference that ends a chain, whose names come last one first. A name that comes up a
second time has no definition. -/
def followChain (document : Document) (registry : Registry) (last : String) (earlier : List String)
    (path : String) : Except BuildError (List String × ChainEnd document registry) :=
  match document.target? path with
  | none => .error (.unresolvedReference path last)
  | some ⟨target, declared⟩ =>
      match bound : registry.lookup? target with
      | some id => .ok ((last :: earlier).reverse, .registered id)
      | none =>
          match found : document.schema? target with
          | some (.inline schema) =>
              .ok ((last :: earlier).reverse,
                .concrete target schema found (by simp [Registry.isBound, bound]))
          | some (.reference next) =>
              if repeated : target ∈ last :: earlier then .error (.circularAlias target)
              else followChain document registry target (last :: earlier) next
          | none => .error (.unresolvedReference path last)
termination_by document.offChain (last :: earlier)
decreasing_by exact Document.offChain_cons_lt declared repeated

/-! ## Walking a definition

The walk follows the outline of a definition through inline definitions. How references are resolved
is left to the caller. -/

abbrev Conversion (document : Document) (start : Progress) (α : Type) :=
  Step (unregistered document) start (Except BuildError α)

/-- Resolves references in every state that is not behind `base`: given the reference and the place
that it stands at. -/
abbrev Resolver (document : Document) (base : Progress) :=
  (progress : Progress) → unregistered document progress ≤ unregistered document base →
    (path location : String) → Conversion document progress TypeId

section Walk

variable {document : Document} {base : Progress} (resolve : Resolver document base)

/-- A primitive type with the values that it is limited to. -/
def convertPrimitive (schema : Schema) (primitive : Primitive) (location : String)
    (progress : Progress) : Conversion document progress (Shape TypeId) :=
  let shape := .primitive primitive schema.enumEntries
  match schema.enumWarning? location with
  | none => .pure progress (.ok shape)
  | some warning =>
      ⟨.ok shape, progress.warn warning, Nat.le_of_eq (unregistered_eq fun _ => rfl)⟩

def convertUnsupported (location : String) (progress : Progress) :
    Conversion document progress (Shape TypeId) :=
  ⟨.ok .unknown, progress.warn (.unsupportedSchema location),
    Nat.le_of_eq (unregistered_eq fun _ => rfl)⟩

/-- Count an inline type that is made of a shape. -/
def finishInline (progress : Progress) (shape : Shape TypeId) :
    Conversion document progress (TypeRef TypeId) :=
  ⟨.ok (.inline shape), progress.countAnonymousType,
    Nat.le_of_eq (unregistered_eq fun _ => rfl)⟩

mutual

/-- The type in a slot: the named type that a reference means, or else an inline type. -/
def convertSlot (slot : SchemaSlot) (location : String) (progress : Progress)
    (within : unregistered document progress ≤ unregistered document base) :
    Conversion document progress (TypeRef TypeId) :=
  match slot with
  | .reference path => (resolve progress within path location).mapOk .named
  | .inline schema =>
      (convertShape schema location progress within).andThen fun progress _ shape =>
        finishInline progress shape
termination_by (sizeOf slot, 0, 0)

def convertShape (schema : Schema) (location : String) (progress : Progress)
    (within : unregistered document progress ≤ unregistered document base) :
    Conversion document progress (Shape TypeId) :=
  match outline : schema.outline with
  | .map value =>
      (convertSlot value (location ++ "\x7b\x7d") progress within).mapOk .map
  | .object properties =>
      (convertFields schema properties
        (fun _ member => Schema.sizeOf_lt_of_outline_eq_object outline member)
        location progress within).mapOk .object
  | .array (some items) => (convertSlot items (location ++ "[]") progress within).mapOk .array
  | .array none => .fail progress (.missingElementType location)
  | .primitive primitive => convertPrimitive schema primitive location progress
  | .untyped => .pure progress (.ok .unknown)
  | .unsupported => convertUnsupported location progress
termination_by (sizeOf schema, 1, 0)
decreasing_by
  · exact Prod.Lex.left _ _ (Schema.sizeOf_lt_of_outline_eq_map outline)
  · exact Prod.Lex.right _ (Prod.Lex.left _ _ Nat.zero_lt_one)
  · exact Prod.Lex.left _ _ (Schema.sizeOf_lt_of_outline_eq_array outline)

/-- The fields that properties of a definition become. -/
def convertFields (schema : Schema) (properties : Entries SchemaSlot)
    (inside : ∀ entry ∈ properties, sizeOf entry.2 < sizeOf schema) (location : String)
    (progress : Progress) (within : unregistered document progress ≤ unregistered document base) :
    Conversion document progress (List (TypeField TypeId)) :=
  match properties with
  | [] => .pure progress (.ok [])
  | (name, slot) :: rest =>
      (convertSlot slot (location ++ "." ++ name) progress within).andThen
        fun progress below type =>
          let field : TypeField TypeId :=
            ⟨name, document.summaryOf slot, type, schema.isRequired name⟩
          (convertFields schema rest (fun entry member => inside entry (.tail _ member)) location
            progress (Nat.le_trans below within)).mapOk (field :: ·)
termination_by (sizeOf schema, 0, properties.length)
decreasing_by
  · exact Prod.Lex.left _ _ (inside (name, slot) (.head _))
  · exact Prod.Lex.right _ (Prod.Lex.right _ (Nat.lt_succ_self _))

end

end Walk

/-! ## Components -/

/-- Bind the names of a chain to the type at its end. -/
def finishChain {document : Document} (progress : Progress) (chain : List String) (id : TypeId) :
    Conversion document progress TypeId :=
  ⟨.ok id, progress.bindAliases id chain, unregistered_le fun other held =>
    (progress.isBound_bindAliases id chain other).mpr (.inr held)⟩

/-- Make the type of a definition. The components it refers to are converted by `convert`, which is
asked only while fewer definitions are left than at the start. -/
def convertConcrete {document : Document} {start : Progress}
    (convert : (progress : Progress) →
      unregistered document progress < unregistered document start → (name : String) →
        Conversion document progress TypeId)
    (name : String) (schema : Schema) (declared : document.schema? name = some (.inline schema))
    (fresh : start.isBound name = false) : Conversion document start TypeId :=
  let id := start.registry.size
  let begun := start.begin name
  have less : unregistered document begun < unregistered document start :=
    unregistered_begin_lt declared fresh
  let resolve : Resolver document begun :=
    fun progress within path location =>
      match document.target? path with
      | none => .fail progress (.unresolvedReference path location)
      | some ⟨name, _⟩ => convert progress (Nat.lt_of_le_of_lt within less) name
  let made := (convertShape resolve schema name begun (Nat.le_refl _)).andThen
    fun progress _ shape =>
      (⟨.ok id, progress.complete id schema.summary? shape,
        Nat.le_of_eq (unregistered_eq fun _ => rfl)⟩ : Conversion document progress TypeId)
  ⟨made.value, made.state, Nat.le_trans made.within (Nat.le_of_lt less)⟩

/-- The type of a component, which is made when the component is first met. -/
def convertNamed (document : Document) (start : Progress) (name : String) :
    Conversion document start TypeId :=
  match bound : start.registry.lookup? name with
  | some id => .pure start (.ok id)
  | none =>
      match found : document.schema? name with
      | none => .fail start (.unresolvedReference name name)
      | some (.inline schema) =>
          convertConcrete (fun progress _ name => convertNamed document progress name) name schema
            found (by simp [Progress.isBound, Registry.isBound, bound])
      | some (.reference path) =>
          match followChain document start.registry name [] path with
          | .error error => .fail start error
          | .ok (chain, .registered id) => finishChain start chain id
          | .ok (chain, .concrete target schema declared fresh) =>
              (convertConcrete (fun progress _ name => convertNamed document progress name) target
                schema declared fresh).andThen fun progress _ id => finishChain progress chain id
termination_by unregistered document start

/-- The type that a reference at `location` means. -/
def resolveReference (document : Document) (progress : Progress) (path location : String) :
    Conversion document progress TypeId :=
  match document.target? path with
  | none => .fail progress (.unresolvedReference path location)
  | some ⟨name, _⟩ => convertNamed document progress name

/-- The type in a slot at `location`. -/
def convertSchema (document : Document) (progress : Progress) (slot : SchemaSlot)
    (location : String) : Conversion document progress (TypeRef TypeId) :=
  convertSlot (fun progress _ path location => resolveReference document progress path location)
    slot location progress (Nat.le_refl _)

/-- Convert components one after the other, up to the first that fails. -/
def convertEach (document : Document) (progress : Progress) :
    List String → Conversion document progress Unit
  | [] => .pure progress (.ok ())
  | name :: names =>
      (convertNamed document progress name).andThen fun progress _ _ =>
        convertEach document progress names

/-- Convert all components in the order of their declaration. -/
def convertComponents (document : Document) (progress : Progress) :
    Conversion document progress Unit :=
  convertEach document progress (Entries.names document.components.schemas)

end ApiGraph
