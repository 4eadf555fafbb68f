import ApiGraph.Json.Token

namespace ApiGraph.Json

open Source (Fault Node)

/-! The structure of JSON text. Tokens are put together one after the other; the lists and maps that
are still open are kept from the innermost outwards. -/

/-- An open list or map with the members it has so far, the last one first. -/
inductive Frame where
  | list (items : List Node)
  | map (members : List (Node × Node))
  /-- An open map, with the key whose value is still to come. -/
  | member (members : List (Node × Node)) (key : Node)

/-- What may stand next. -/
inductive Expectation where
  | value
  | firstItem
  | itemEnd
  | firstKey
  | key
  | colon
  | memberEnd
  deriving DecidableEq, Repr

/-- Close everything that is open at the place where a fault stops the text. `inner` is the value
that is left unfinished, if one was begun. -/
def stopped (fault : Fault) : List Frame → Option Node → Node
  | [], inner => inner.getD (.broken fault fault)
  | .list items :: outer, inner =>
      stopped fault outer (some (.list (items.reverse ++ inner.toList) (some fault)))
  | .map members :: outer, _ => stopped fault outer (some (.map members.reverse (some fault)))
  | .member members key :: outer, inner =>
      let value := inner.getD (.broken fault fault)
      stopped fault outer (some (.map (members.reverse ++ [(key, value)]) (some fault)))

/-- The value that has begun where the text ends: behind a comma a list has one more item. -/
def begun? : Expectation → List Frame → Option Node
  | .value, .list _ :: _ => some (.broken .ended .ended)
  | _, _ => none

/-- The value that the tokens begin with, and whether tokens are left behind it. -/
def assemble : Expectation → List Frame → List Token → Node × Bool
  | expected, frames, [] => (stopped .ended frames (begun? expected frames), false)
  | expected, frames, token :: rest =>
      let malformed : Node × Bool := (stopped .malformed frames none, false)
      let finish (node : Node) : Node × Bool :=
        match frames with
        | [] => (node, !rest.isEmpty)
        | .list items :: outer => assemble .itemEnd (.list (node :: items) :: outer) rest
        | .member members key :: outer =>
            assemble .memberEnd (.map ((key, node) :: members) :: outer) rest
        | .map _ :: _ => malformed
      /- The innermost list or map is complete, and is the next value of the one around it. -/
      let finishOuter (node : Node) (outer : List Frame) : Node × Bool :=
        match outer with
        | [] => (node, !rest.isEmpty)
        | .list items :: outer => assemble .itemEnd (.list (node :: items) :: outer) rest
        | .member members key :: outer =>
            assemble .memberEnd (.map ((key, node) :: members) :: outer) rest
        | .map _ :: _ => malformed
      match expected, token, frames with
      | .firstItem, .closeList, .list items :: outer => finishOuter (.list items.reverse none) outer
      | .itemEnd, .closeList, .list items :: outer => finishOuter (.list items.reverse none) outer
      | .itemEnd, .comma, _ => assemble .value frames rest
      | .firstKey, .closeMap, .map members :: outer => finishOuter (.map members.reverse none) outer
      | .memberEnd, .closeMap, .map members :: outer =>
          finishOuter (.map members.reverse none) outer
      | .memberEnd, .comma, _ => assemble .key frames rest
      | .firstKey, .string content, .map members :: outer
      | .key, .string content, .map members :: outer =>
          assemble .colon (.member members (.scalar (stringScalar content)) :: outer) rest
      | .firstKey, .brokenString whenRead whenSkipped, .map members :: outer
      | .key, .brokenString whenRead whenSkipped, .map members :: outer =>
          let key : Node := .broken whenRead whenSkipped
          (stopped whenSkipped (.member members key :: outer) none, false)
      | .colon, .colon, _ => assemble .value frames rest
      | .firstItem, token, _
      | .value, token, _ =>
          match token with
          | .openList => assemble .firstItem (.list [] :: frames) rest
          | .openMap => assemble .firstKey (.map [] :: frames) rest
          | .string content => finish (.scalar (stringScalar content))
          | .scalar content => finish (.scalar content)
          | .broken whenRead whenSkipped
          | .brokenString whenRead whenSkipped =>
              (stopped whenSkipped frames (some (.broken whenRead whenSkipped)), false)
          | _ => malformed
      | _, _, _ => malformed

/-- Deeper lists and maps are a fault where they are read. -/
def depthLimit : Nat := 127

/-- JSON text. Nothing may follow the value. -/
def source (text : List UInt8) : Source.Text :=
  let (root, more) := assemble .value [] (tokens text)
  { root := root
    trailing := if more then some .malformed else none
    depthLimit := depthLimit
    listsAsRecords := true }

end ApiGraph.Json
