import ApiGraph.Source.Data

namespace ApiGraph.Source

/-! The structure of a text, as far as the text could be followed. Nothing is judged here that
depends on what the text is for: a number out of range or an ill-formed character is a fault only
where the value is read, and is passed over where it is not. -/

/-- Why a text is rejected: it ends too early, it breaks the rules of its format, or it holds
something other than what is wanted there. -/
inductive Fault where
  | ended
  | malformed
  | wrongShape
  deriving DecidableEq, Repr

/-- A value without parts, with everything that a reader may ask of it. -/
structure Scalar where
  /-- The value where text is wanted. -/
  text : Except Fault String
  /-- The value where anything is wanted. -/
  data : Except Fault Data
  /-- Whether the value stands for the lack of an optional value. -/
  isAbsent : Except Fault Bool
  /-- Whether the value stands for a list or map without members. -/
  isEmpty : Bool

/-- A place in a text. A list or map that the text does not finish holds the fault that stopped
it. -/
inductive Node where
  | scalar (value : Scalar)
  | list (items : List Node) (stop : Option Fault)
  | map (members : List (Node × Node)) (stop : Option Fault)
  /-- The node that carries an anchor, used once more. -/
  | alias (anchor : Nat)
  /-- A list or map of a type unknown to every reader. -/
  | tagged (content : Node)
  /-- A value that the text does not finish, with the fault for one who reads it and for one who
  passes over it. -/
  | broken (whenRead whenSkipped : Fault)

/-- What a whole text holds. -/
structure Text where
  root : Node
  /-- The fault in what follows the value. -/
  trailing : Option Fault := none
  anchors : List (Nat × Node) := []
  /-- How often aliases may be followed in one reading. -/
  aliasLimit : Nat := 0
  /-- How deep lists and maps may be nested where they are read. -/
  depthLimit : Nat
  /-- Whether a list may stand for a record. -/
  listsAsRecords : Bool

/-! ## Reading

Reading counts the aliases that it follows, and stops at the first fault in the order of the
text. -/

abbrev Reading := StateT Nat (Except Fault)

namespace Node

/-- Pass over a node. -/
def skip : Node → Except Fault Unit
  | .list _ (some fault) => throw fault
  | .map _ (some fault) => throw fault
  | .broken _ fault => throw fault
  | _ => pure ()

/-- The node itself, or the one that it is an alias of. -/
def target (source : Text) (node : Node) : Reading Node :=
  match node with
  | .alias anchor => do
      let followed ← get
      if source.aliasLimit < followed + 1 then throw .malformed
      set (followed + 1)
      match source.anchors.lookup anchor with
      | some node => pure node
      | none => throw .malformed
  | _ => pure node

/-- The fault of a scalar that is not what is wanted: one that cannot be read at all comes first. -/
def mismatch (value : Scalar) : Fault :=
  match value.data with
  | .error fault => fault
  | .ok _ => .wrongShape

/-- A node where text is wanted. -/
def text (source : Text) (node : Node) : Reading String := do
  match ← node.target source with
  | .scalar value =>
      match value.text with
      | .ok text => pure text
      | .error fault => throw fault
  | .broken fault _ => throw fault
  | _ => throw .wrongShape

/-- Whether a node stands for the lack of an optional value. -/
def isAbsent : Node → Reading Bool
  | .scalar value => liftM value.isAbsent
  | _ => pure false

/-- Whether a node is written with a minus in front. -/
def isNegative : Node → Bool
  | .scalar value =>
      match value.text with
      | .ok text => text.front? == some '-'
      | .error _ => false
  | _ => false

/-- The key that a node with this data is. What has a minus is no position, not even zero. -/
def asKey (node : Node) : Data → Key
  | .text name => .name name
  | .number (.integer (.ofNat position)) => if node.isNegative then .other else .index position
  | _ => .other

/-- Everything below a node, where the depth that is left suffices. -/
def data (source : Text) : (depth : Nat) → Node → Reading Data
  | 0, node => do
      match ← node.target source with
      | .scalar value => liftM value.data
      | .broken fault _ => throw fault
      | .tagged _ => throw .wrongShape
      | _ => throw .malformed
  | depth + 1, node => do
      match ← node.target source with
      | .scalar value => liftM value.data
      | .broken fault _ => throw fault
      | .tagged _ => throw .wrongShape
      | .alias _ => throw .malformed
      | .list items stop =>
          let values ← items.mapM (data source depth)
          match stop with
          | some fault => throw fault
          | none => pure (.list values)
      | .map members stop =>
          let values ← members.mapM fun (key, value) => do
            let key ← key.target source
            let name ← data source depth key
            let value ← data source depth value
            pure (key.asKey name, value)
          match stop with
          | some fault => throw fault
          | none => pure (.map values)

end Node

end ApiGraph.Source
