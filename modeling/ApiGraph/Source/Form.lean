import ApiGraph.Source.Node

namespace ApiGraph.Source

/-! The form of a text: what it has to hold at its outer places, where only the named members are
read and all else is passed over. A form is read in the order of the text, so that the first fault
in the text is the one reported. What is read has the plain shape of its form: every record is a map
of the fields that it holds, and every text is a text. -/

inductive Presence where
  /-- The field may be missing, also at the end of a list. -/
  | defaulted
  /-- The field may be missing or null; in a list it has its place. -/
  | optional
  deriving DecidableEq, Repr

inductive Form where
  | text
  /-- Data of any kind that a reader of it accepts. -/
  | content (accepts : Data → Bool)
  | list (item : Form)
  | map (value : Form)
  | record (fields : List (String × Presence × Form))

namespace Form

/-! A record is put together field by field. `readField` reads the value of one field by way of
`read`, which reads the forms of the values. -/

section Record

variable (source : Text) (read : Form → Node → Reading Data)

def readField (presence : Presence) (form : Form) (node : Node) : Reading Data := do
  match presence with
  | .defaulted => read form node
  | .optional =>
      let node ← node.target source
      if ← node.isAbsent then pure .null else read form node

/-- A record as a map. A member under another name is passed over, and no field occurs twice. -/
def readMembers (fields : List (String × Presence × Form)) (stop : Option Fault) :
    List (Node × Node) → Entries Data → Reading (Entries Data)
  | [], found =>
      match stop with
      | some fault => throw fault
      | none => pure found
  | (key, value) :: rest, found => do
      let name ← key.text source
      match fields.lookup name with
      | none =>
          liftM value.skip
          readMembers fields stop rest found
      | some (presence, form) =>
          if (Entries.value? found name).isSome then throw .wrongShape
          let data ← readField source read presence form value
          readMembers fields stop rest (found ++ [(name, data)])

/-- A record as a list of its fields. -/
def readItems (stop : Option Fault) :
    List (String × Presence × Form) → List Node → Reading (Entries Data)
  | [], [] =>
      match stop with
      | some fault => throw fault
      | none => pure []
  | [], _ :: _ => throw .malformed
  | (name, presence, form) :: fields, item :: items => do
      let data ← readField source read presence form item
      let rest ← readItems stop fields items
      pure ((name, data) :: rest)
  | (_, presence, _) :: fields, [] =>
      match stop, presence with
      | some fault, _ => throw fault
      | none, .defaulted => readItems stop fields []
      | none, .optional => throw .wrongShape

end Record

def named (entries : Entries Data) : Data :=
  .map (entries.map fun (name, value) => (.name name, value))

def finished (stop : Option Fault) (data : Data) : Reading Data :=
  match stop with
  | some fault => throw fault
  | none => pure data

/-- The node without the mark of an unknown type, which only matters where any data is wanted. -/
def bare : Node → Node
  | .tagged inner => inner
  | node => node

/-- The data at a node of this form. -/
def read (source : Text) : (depth : Nat) → Form → Node → Reading Data
  | _, .text, node => do return .text (← node.text source)
  | depth, .content accepts, node => do
      let data ← node.data source depth
      if accepts data then pure data else throw .wrongShape
  | depth, .list form, node => do
      match bare (← node.target source), depth with
      | .scalar value, _ => if value.isEmpty then pure (.list []) else throw (Node.mismatch value)
      | .broken fault _, _ => throw fault
      | .list _ _, 0 => throw .malformed
      | .list items stop, depth + 1 => do
          let values ← items.mapM (read source depth form)
          finished stop (.list values)
      | _, _ => throw .wrongShape
  | depth, .map form, node => do
      match bare (← node.target source), depth with
      | .scalar value, _ => if value.isEmpty then pure (.map []) else throw (Node.mismatch value)
      | .broken fault _, _ => throw fault
      | .map _ _, 0 => throw .malformed
      | .map members stop, depth + 1 => do
          let values ← members.mapM fun (key, value) => do
            let name ← key.text source
            let data ← read source depth form value
            pure (name, data)
          finished stop (named values)
      | _, _ => throw .wrongShape
  | depth, .record fields, node => do
      match bare (← node.target source), depth with
      | .scalar value, _ => if value.isEmpty then pure (.map []) else throw (Node.mismatch value)
      | .broken fault _, _ => throw fault
      | .map _ _, 0 => throw .malformed
      | .map members stop, depth + 1 => do
          return named (← readMembers source (read source depth) fields stop members [])
      | .list items stop, depth =>
          if source.listsAsRecords then
            match depth with
            | 0 => throw .malformed
            | depth + 1 => do
                return named (← readItems source (read source depth) stop fields items)
          else throw .wrongShape
      | _, _ => throw .wrongShape

end Form

/-- What a text of the given form holds. -/
def Text.read (source : Text) (form : Form) : Except Fault Data :=
  match (form.read source source.depthLimit source.root).run 0 with
  | .error fault => .error fault
  | .ok (value, _) =>
      match source.trailing with
      | some fault => .error fault
      | none => .ok value

end ApiGraph.Source
