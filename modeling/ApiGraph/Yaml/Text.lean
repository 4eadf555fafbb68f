import ApiGraph.Yaml.Composition
import ApiGraph.Yaml.Scanner

namespace ApiGraph.Yaml

open Source (Node Fault)

/-! YAML text holds a single document. -/

/-! ## Directives -/

structure Directives where
  hasVersion : Bool := false
  handles : Handles := []

/-- The directives that a document begins with. No handle is declared twice, and the version is one
of those that are known. -/
def readDirectives (directives : Directives) : List Token → Option (Directives × List Token)
  | .version major minor :: rest =>
      if directives.hasVersion || major != 1 || !(minor == 1 || minor == 2) then none
      else readDirectives { directives with hasVersion := true } rest
  | .handle handle lead :: rest =>
      if (directives.handles.lookup handle).isSome then none
      else readDirectives { directives with handles := (handle, lead) :: directives.handles } rest
  | rest => some (directives, rest)

def startsDocument : List Token → Bool
  | .version _ _ :: _ => true
  | .handle _ _ :: _ => true
  | .documentStart :: _ => true
  | _ => false

def endsDocument : List Token → Bool
  | [] => true
  | .documentEnd :: _ => true
  | tokens => startsDocument tokens

/-! ## Documents -/

/-- A document that is not marked as one, or the content behind the mark. -/
def composeDocument (handles : Handles) (tokens : List Token) : Option (Node × Composition) :=
  let composed := composeNode (handles ++ commonHandles) .block { tokens := tokens }
  composed.value.toOption.map fun node => (node, composed.state)

/-- The content of a document behind its mark. -/
def composeContent (handles : Handles) (tokens : List Token) : Option (Node × Composition) :=
  if endsDocument tokens then some (emptyScalar, { tokens := tokens, size := 1 })
  else composeDocument handles tokens

/-- The first document. A text without tokens holds an empty one. -/
def composeFirst (tokens : List Token) : Option (Node × Composition) :=
  if tokens.isEmpty then composeContent [] tokens
  else if startsDocument tokens then do
    match ← readDirectives {} tokens with
    | (directives, .documentStart :: rest) => composeContent directives.handles rest
    | _ => none
  else composeDocument [] tokens

/-- Whether nothing but marks of its end follow a document. -/
def nothingFollows (composition : Composition) : Bool :=
  composition.tokens.all (· == .documentEnd)

/-- The document of a text with what was met in it. -/
def compose? (text : List Char) : Option (Node × Composition) := do
  let tokens ← tokens? (← Input.ofText? text)
  let (root, composition) ← composeFirst tokens
  if nothingFollows composition then some (root, composition) else none

/-! ## Text -/

/-- Deeper lists and maps are a fault where they are read. -/
def depthLimit : Nat := 128

/-- How often aliases may be followed for everything that a text holds. -/
def aliasFactor : Nat := 100

/-- YAML text, which is encoded in UTF-8. -/
def source (text : List UInt8) : Source.Text :=
  match (String.fromUTF8? ⟨text.toArray⟩).bind fun text => compose? text.toList with
  | some (root, composition) =>
      { root := root
        anchors := composition.anchors
        aliasLimit := aliasFactor * composition.size
        depthLimit := depthLimit
        listsAsRecords := false }
  | none =>
      { root := .broken .malformed .malformed
        depthLimit := depthLimit
        listsAsRecords := false }

end ApiGraph.Yaml
