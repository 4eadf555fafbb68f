import ApiGraph.Types

namespace ApiGraph

/-! The named types of one build. A type is registered under its name before its shape is known, so
that references met meanwhile, its own included, find it; and it may get further names. -/

/-- A named type is known by its number, counted from zero in the order of registration. -/
abbrev TypeId := Nat

structure TypeNode where
  name : String
  description : Option String := none
  shape : Shape TypeId := .unknown
  /-- The module that owns the type. -/
  module : Option String := none

structure Registry where
  nodes : List TypeNode := []
  /-- All names of the types, in the order of registration. -/
  bindings : Entries TypeId := []
  /-- The types whose shape is still to come. -/
  pending : List TypeId := []

namespace Registry

def empty : Registry := {}

def size (registry : Registry) : Nat := registry.nodes.length

def ids (registry : Registry) : List TypeId := List.range registry.size

def node? (registry : Registry) (id : TypeId) : Option TypeNode := registry.nodes[id]?

/-- The name that a type was registered under. -/
def nameOf (registry : Registry) (id : TypeId) : String :=
  match registry.node? id with
  | some node => node.name
  | none => ""

def lookup? (registry : Registry) (name : String) : Option TypeId :=
  Entries.value? registry.bindings name

def isBound (registry : Registry) (name : String) : Bool := (registry.lookup? name).isSome

def nodeNamed? (registry : Registry) (name : String) : Option TypeNode :=
  (registry.lookup? name).bind registry.node?

def isPending (registry : Registry) (id : TypeId) : Bool := registry.pending.contains id

/-- The names that are not the name a type was registered under, with the types they stand for. -/
def aliases (registry : Registry) : Entries TypeId :=
  registry.bindings.filter fun (name, id) => registry.nameOf id != name

/-! ## Changes -/

/-- Register a name. The shape of a new type is unknown; a name that is bound keeps its type. -/
def reserve (registry : Registry) (name : String) : TypeId × Registry :=
  match registry.lookup? name with
  | some id => (id, registry)
  | none =>
      let id := registry.size
      (id, {
        nodes := registry.nodes ++ [{ name := name }]
        bindings := registry.bindings ++ [(name, id)]
        pending := registry.pending ++ [id] })

/-- Give a type its shape. -/
def complete (registry : Registry) (id : TypeId) (description : Option String)
    (shape : Shape TypeId) : Registry :=
  { registry with
    nodes := registry.nodes.modify id fun node =>
      { node with description := description, shape := shape }
    pending := registry.pending.filter (· != id) }

/-- Bind a further name, unless it is bound already; also tells whether it was free. -/
def bindAlias (registry : Registry) (name : String) (id : TypeId) : Bool × Registry :=
  if registry.isBound name then (false, registry)
  else (true, { registry with bindings := registry.bindings ++ [(name, id)] })

/-- Give a type to a module. Only the first assignment counts; also tells whether this was it. -/
def assignModule (registry : Registry) (id : TypeId) (module : String) : Bool × Registry :=
  match registry.node? id with
  | some node =>
      if node.module.isSome then (false, registry)
      else
        (true, { registry with
          nodes := registry.nodes.modify id fun node => { node with module := some module } })
  | none => (false, registry)

/-! ## Orders -/

/-- The types in the order of their names. -/
def sortByName (registry : Registry) (ids : List TypeId) : List TypeId :=
  ids.mergeSort fun left right => decide (registry.nameOf left ≤ registry.nameOf right)

def sortedIds (registry : Registry) : List TypeId := registry.sortByName registry.ids

/-- Types in the order of their numbers, each once. -/
def sortIds (ids : List TypeId) : List TypeId :=
  (ids.mergeSort fun left right => decide (left ≤ right)).eraseDups

/-- The named types that a type depends on directly: those its shape refers to. -/
def dependencies (registry : Registry) (id : TypeId) : List TypeId :=
  match registry.node? id with
  | some node => sortIds node.shape.targets
  | none => []

end Registry

end ApiGraph
