import ApiGraph.Step
import ApiGraph.Yaml.Resolution
import ApiGraph.Yaml.Token

namespace ApiGraph.Yaml

open Source (Node Fault)

/-! The nodes of YAML text are put together from its tokens. -/

/-! ## Handles -/

/-- Handles with what they stand for. -/
abbrev Handles := List (List Char × List UInt8)

/-- The handles that need no declaration. -/
def commonHandles : Handles := [("!".toList, [tagMark]), ("!!".toList, coreLead)]

/-- The URI of a tag, unless its handle is unknown. -/
def TagText.uri? (tag : TagText) (handles : Handles) : Option (List UInt8) :=
  if tag.handle.isEmpty then some tag.suffix
  else (handles.lookup tag.handle).map (· ++ tag.suffix)

/-! ## The state of the composition -/

structure Composition where
  /-- The tokens that are left. -/
  tokens : List Token
  /-- The numbers of the anchors by name. -/
  names : Entries Nat := []
  /-- How many anchors have been declared. -/
  declared : Nat := 0
  /-- The nodes of the declared anchors: which declaration it was, and the number of the anchor. -/
  anchored : List (Nat × Nat × Node) := []
  /-- The number of scalars and aliases and twice that of lists and maps. -/
  size : Nat := 0

namespace Composition

def left (composition : Composition) : Nat := composition.tokens.length

def withTokens (composition : Composition) (tokens : List Token) : Composition :=
  { composition with tokens := tokens }

def count (composition : Composition) (size : Nat) : Composition :=
  { composition with size := composition.size + size }

/-- The declaration of an anchor and the number that it is known by. -/
structure Declaration where
  order : Nat
  number : Nat

/-- Declare an anchor. Its number is that of the names known so far. A name that is declared again
gets a new number, which a later name may share. -/
def declare (composition : Composition) : Option (List Char) → Option Declaration × Composition
  | none => (none, composition)
  | some name =>
      let number := composition.names.length
      (some ⟨composition.declared, number⟩, { composition with
        names := Entries.put composition.names (String.ofList name) number
        declared := composition.declared + 1 })

/-- Give a declared anchor its node. -/
def settle (composition : Composition) (node : Node) : Option Declaration → Composition
  | none => composition
  | some declaration =>
      { composition with
        anchored := (declaration.order, declaration.number, node) :: composition.anchored }

/-- The nodes that aliases mean. Of anchors with the same number the last one declared counts. -/
def anchors (composition : Composition) : List (Nat × Node) :=
  (composition.anchored.mergeSort fun left right => decide (right.1 ≤ left.1)).map Prod.snd

theorem left_withTokens (composition : Composition) (tokens : List Token) :
    (composition.withTokens tokens).left = tokens.length := rfl

theorem left_withTokens_lt {composition : Composition} {token : Token} {rest : List Token}
    (tokens : composition.tokens = token :: rest) :
    (composition.withTokens rest).left < composition.left := by
  simp [left, withTokens, tokens]

theorem left_withTokens_le {composition : Composition} {token : Token} {rest : List Token}
    (tokens : composition.tokens = token :: rest) :
    (composition.withTokens rest).left ≤ composition.left :=
  Nat.le_of_lt (left_withTokens_lt tokens)

@[simp] theorem left_count (composition : Composition) (size : Nat) :
    (composition.count size).left = composition.left := rfl

@[simp] theorem left_declare (composition : Composition) (anchor : Option (List Char)) :
    (composition.declare anchor).2.left = composition.left := by
  cases anchor <;> rfl

@[simp] theorem left_settle (composition : Composition) (node : Node)
    (declaration : Option Declaration) :
    (composition.settle node declaration).left = composition.left := by
  cases declaration <;> rfl

end Composition

/-- A composition that goes on from a state, and never has more tokens left. -/
abbrev Composing (start : Composition) (α : Type) :=
  Step Composition.left start (Except Fault α)

/-! ## Nodes without parts -/

def emptyScalar : Node := .scalar (scalar [] true none)

/-- A value that is left out. -/
def composeEmpty (start : Composition) : Composing start Node :=
  ⟨.ok emptyScalar, start.count 1, Nat.le_refl _⟩

/-- What stands in front of a node. -/
structure Properties where
  anchor : Option (List Char) := none
  tag : Option TagText := none
  rest : List Token

def properties : List Token → Properties
  | .anchor anchor :: .tag tag :: rest => ⟨some anchor, some tag, rest⟩
  | .tag tag :: .anchor anchor :: rest => ⟨some anchor, some tag, rest⟩
  | .anchor anchor :: rest => ⟨some anchor, none, rest⟩
  | .tag tag :: rest => ⟨none, some tag, rest⟩
  | rest => ⟨none, none, rest⟩

theorem length_properties_le (tokens : List Token) :
    (properties tokens).rest.length ≤ tokens.length := by
  unfold properties
  split <;> simp <;> omega

def Properties.isEmpty (properties : Properties) : Bool :=
  properties.anchor.isNone && properties.tag.isNone

/-- A list or map of a custom type is marked as such. -/
def typed (tag : Option Tag) (node : Node) : Node :=
  if tag = some .custom then .tagged node else node

/-- Where a node stands, which decides on the collections that may begin there. -/
inductive Position where
  | block
  /-- The key or value of a block map, where a list needs no indentation of its own. -/
  | member
  | flow
  deriving DecidableEq, Repr

/-! ## Nodes

What ends a collection is a token of its own, and so is what lies between its members. A member that
is left out is empty; `stops` are the tokens that show that it is left out. -/

def stopsBlockItem : List Token := [.blockEntry, .blockEnd]

def stopsIndentlessItem : List Token := [.blockEntry, .key, .value, .blockEnd]

def stopsBlockMember : List Token := [.key, .value, .blockEnd]

def stopsFlowKey : List Token := [.value, .flowEntry, .flowMapEnd]

def stopsFlowValue : List Token := [.flowEntry, .flowMapEnd]

def stopsPairKey : List Token := [.value, .flowEntry, .flowListEnd]

def stopsPairValue : List Token := [.flowEntry, .flowListEnd]

/-- Whether one of the tokens comes next. -/
def Composition.isAt (composition : Composition) (stops : List Token) : Bool :=
  composition.tokens.head?.any stops.contains

section Compose

variable (handles : Handles)

/-- A list or map of a type, which may have an anchor, once its members have been composed. -/
def composeCollection {start : Composition} (declaration : Option Composition.Declaration)
    (tag : Option Tag) (members : Composing start Node) : Composing start Node :=
  members.andThen fun composition _ node =>
    let node := typed tag node
    ⟨.ok node, (composition.settle node declaration).count 2, by simp⟩

mutual

def composeNode (position : Position) (start : Composition) : Composing start Node :=
  match tokens : start.tokens with
  | .alias name :: rest =>
      match Entries.value? start.names (String.ofList name) with
      | none => .fail start .malformed
      | some number =>
          ⟨.ok (.alias number), (start.withTokens rest).count 1,
            Composition.left_withTokens_le tokens⟩
  | _ =>
      let before := properties start.tokens
      have fewer : before.rest.length ≤ start.left := length_properties_le start.tokens
      match before.tag.map (·.uri? handles) with
      | some none => .fail start .malformed
      | uri =>
          let tag := uri.join.map Tag.ofUri
          let (declaration, declared) := start.declare before.anchor
          let single (rest : List Token) (within : rest.length ≤ start.left) (text : List Char)
              (plain : Bool) : Composing start Node :=
            let node : Node := .scalar (scalar text plain tag)
            ⟨.ok node, ((declared.withTokens rest).settle node declaration).count 1, by
              simpa [Composition.left_withTokens]⟩
          let collection (inner : Composition) (within : inner.left ≤ start.left)
              (members : Composing inner Node) : Composing start Node :=
            (composeCollection declaration tag members).weaken within
          let omitted : Composing start Node :=
            if before.isEmpty then .fail start .malformed
            else single before.rest fewer [] true
          match next : before.rest with
          | [] => omitted
          | token :: rest =>
              have less : (declared.withTokens rest).left < start.left := by
                rw [next] at fewer
                exact fewer
              have within := Nat.le_of_lt less
              let inner := declared.withTokens rest
              match token, position with
              | .scalar text plain, _ => single rest within text plain
              | .flowListStart, _ =>
                  collection inner within ((composeFlowItems inner).mapOk (.list · none))
              | .flowMapStart, _ =>
                  collection inner within ((composeFlowMembers inner).mapOk (.map · none))
              | .blockListStart, .block
              | .blockListStart, .member =>
                  collection inner within ((composeBlockItems inner).mapOk (.list · none))
              | .blockMapStart, .block
              | .blockMapStart, .member =>
                  collection inner within ((composeBlockMembers inner).mapOk (.map · none))
              | .blockEntry, .member =>
                  let whole := declared.withTokens before.rest
                  collection whole fewer ((composeIndentlessItems whole).mapOk (.list · none))
              | _, _ => omitted
termination_by 3 * start.left + 1
decreasing_by
  all_goals first
    | omega
    | exact Nat.lt_succ_of_le (Nat.mul_le_mul_left 3 fewer)

def composeMember (position : Position) (stops : List Token) (start : Composition) :
    Composing start Node :=
  if start.isAt stops then composeEmpty start else composeNode position start
termination_by 3 * start.left + 2

/-- The value of a key. -/
def composeValue (position : Position) (stops : List Token) (start : Composition) :
    Composing start Node :=
  match tokens : start.tokens with
  | .value :: rest =>
      have less := Composition.left_withTokens_lt tokens
      (composeMember position stops (start.withTokens rest)).weaken (Nat.le_of_lt less)
  | _ => composeEmpty start
termination_by 3 * start.left

def composeBlockItems (start : Composition) : Composing start (List Node) :=
  match tokens : start.tokens with
  | .blockEntry :: rest =>
      have less := Composition.left_withTokens_lt tokens
      ((composeMember .block stopsBlockItem (start.withTokens rest)).andThen
        fun composition _ item =>
          (composeBlockItems composition).mapOk (item :: ·)).weaken (Nat.le_of_lt less)
  | .blockEnd :: rest => ⟨.ok [], start.withTokens rest, Composition.left_withTokens_le tokens⟩
  | _ => .fail start .malformed
termination_by 3 * start.left

def composeIndentlessItems (start : Composition) : Composing start (List Node) :=
  match tokens : start.tokens with
  | .blockEntry :: rest =>
      have less := Composition.left_withTokens_lt tokens
      ((composeMember .block stopsIndentlessItem (start.withTokens rest)).andThen
        fun composition _ item =>
          (composeIndentlessItems composition).mapOk (item :: ·)).weaken (Nat.le_of_lt less)
  | _ => .pure start (.ok [])
termination_by 3 * start.left

def composeBlockMembers (start : Composition) : Composing start (List (Node × Node)) :=
  match tokens : start.tokens with
  | .key :: rest =>
      have less := Composition.left_withTokens_lt tokens
      ((composeMember .member stopsBlockMember (start.withTokens rest)).andThen
        fun composition _ key =>
          (composeValue .member stopsBlockMember composition).andThen fun composition _ value =>
            (composeBlockMembers composition).mapOk ((key, value) :: ·)).weaken (Nat.le_of_lt less)
  | .blockEnd :: rest => ⟨.ok [], start.withTokens rest, Composition.left_withTokens_le tokens⟩
  | _ => .fail start .malformed
termination_by 3 * start.left

/-- A list in a flow collection, where an item or the end may follow. -/
def composeFlowItems (start : Composition) : Composing start (List Node) :=
  match tokens : start.tokens with
  | .flowListEnd :: rest => ⟨.ok [], start.withTokens rest, Composition.left_withTokens_le tokens⟩
  | .key :: rest =>
      have less := Composition.left_withTokens_lt tokens
      ((composePair (start.withTokens rest)).andThen fun composition _ pair =>
        (composeMoreFlowItems composition).mapOk (pair :: ·)).weaken (Nat.le_of_lt less)
  | _ =>
      (composeNode .flow start).andThen fun composition _ item =>
        (composeMoreFlowItems composition).mapOk (item :: ·)
termination_by 3 * start.left + 2

def composeMoreFlowItems (start : Composition) : Composing start (List Node) :=
  match tokens : start.tokens with
  | .flowListEnd :: rest => ⟨.ok [], start.withTokens rest, Composition.left_withTokens_le tokens⟩
  | .flowEntry :: rest =>
      have less := Composition.left_withTokens_lt tokens
      (composeFlowItems (start.withTokens rest)).weaken (Nat.le_of_lt less)
  | _ => .fail start .malformed
termination_by 3 * start.left

/-- A map of a single member that stands in a list without a mark of its own. A key that is left out
takes the token after it along. -/
def composePair (start : Composition) : Composing start Node :=
  let key : Composing start Node :=
    if start.isAt stopsPairKey then
      (composeEmpty (start.withTokens start.tokens.tail)).weaken
        (by simp [Composition.left, Composition.withTokens])
    else composeNode .flow start
  key.andThen fun composition _ key =>
    (composeValue .flow stopsPairValue composition).andThen fun composition _ value =>
      ⟨.ok (.map [(key, value)] none), composition.count 2, Nat.le_refl _⟩
termination_by 3 * start.left + 2

/-- A map in a flow collection, where a member or the end may follow. -/
def composeFlowMembers (start : Composition) : Composing start (List (Node × Node)) :=
  match tokens : start.tokens with
  | .flowMapEnd :: rest => ⟨.ok [], start.withTokens rest, Composition.left_withTokens_le tokens⟩
  | .key :: rest =>
      have less := Composition.left_withTokens_lt tokens
      ((composeMember .flow stopsFlowKey (start.withTokens rest)).andThen
        fun composition _ key =>
          (composeValue .flow stopsFlowValue composition).andThen fun composition _ value =>
            (composeMoreFlowMembers composition).mapOk ((key, value) :: ·)).weaken
              (Nat.le_of_lt less)
  | _ =>
      (composeNode .flow start).andThen fun composition _ key =>
        (composeEmpty composition).andThen fun composition _ value =>
          (composeMoreFlowMembers composition).mapOk ((key, value) :: ·)
termination_by 3 * start.left + 2

def composeMoreFlowMembers (start : Composition) : Composing start (List (Node × Node)) :=
  match tokens : start.tokens with
  | .flowMapEnd :: rest => ⟨.ok [], start.withTokens rest, Composition.left_withTokens_le tokens⟩
  | .flowEntry :: rest =>
      have less := Composition.left_withTokens_lt tokens
      (composeFlowMembers (start.withTokens rest)).weaken (Nat.le_of_lt less)
  | _ => .fail start .malformed
termination_by 3 * start.left

end

end Compose

end ApiGraph.Yaml
