import ApiGraph.Yaml.Property

namespace ApiGraph.Yaml

/-! The scanner turns YAML text into tokens.

A key of a map often shows only by the colon behind it. So the scanner remembers where the last node
began that may be such a key, one for the block collections and one for every open flow collection,
and puts the tokens of the key there once the colon comes. -/

/-- The beginning of a node that may turn out to be a key. -/
structure Candidate where
  /-- The number of tokens before it. -/
  position : Nat
  place : Place
  /-- Whether nothing but a key may stand there. -/
  required : Bool

structure Scanner where
  input : Input
  /-- The tokens so far, the last one first. -/
  tokens : List Token := []
  /-- The number of tokens. -/
  count : Nat := 0
  /-- The columns of the open block collections, from the innermost outwards. -/
  indents : List Nat := []
  candidate : Option Candidate := none
  /-- The candidates of what stands around the open flow collections, from the innermost
  outwards. -/
  outerCandidates : List (Option Candidate) := []
  /-- Whether a key without a mark may begin here. -/
  keyAllowed : Bool := true

namespace Scanner

def inFlow (scanner : Scanner) : Bool := !scanner.outerCandidates.isEmpty

/-- The least indentation of what stands in the innermost block collection. -/
def leastIndent (scanner : Scanner) : Nat := scanner.indents.head?.elim 0 (· + 1)

/-! ## Tokens -/

def emit (scanner : Scanner) (token : Token) : Scanner :=
  { scanner with tokens := token :: scanner.tokens, count := scanner.count + 1 }

/-- Put a token in front of those from a position on. -/
def insert (scanner : Scanner) (position : Nat) (token : Token) : Scanner :=
  { scanner with
    tokens := scanner.tokens.insertIdx (scanner.count - position) token
    count := scanner.count + 1 }

/-- Add the token of a mark of so many characters. -/
def mark (scanner : Scanner) (token : Token) (length : Nat) : Scanner :=
  { scanner.emit token with input := scanner.input.advance length }

/-- Add the token of a scan. -/
def scanned {α : Type} (scanner : Scanner) (token : α → Token) : Option (α × Input) → Option Scanner
  | none => none
  | some (value, rest) => some { scanner.emit (token value) with input := rest }

/-! ## Keys -/

/-- Give up the candidate. It must not be one that has to be a key. -/
def dropCandidate (scanner : Scanner) : Option Scanner :=
  if scanner.candidate.any Candidate.required then none
  else some { scanner with candidate := none }

/-- What begins here may be a key. -/
def saveCandidate (scanner : Scanner) : Option Scanner :=
  if scanner.keyAllowed then do
    let required := !scanner.inFlow && scanner.indents.head? == some scanner.input.column
    let scanner ← scanner.dropCandidate
    let candidate := ⟨scanner.count, scanner.input.here, required⟩
    return { scanner with candidate := some candidate }
  else some scanner

def setKeyAllowed (scanner : Scanner) (keyAllowed : Bool) : Scanner :=
  { scanner with keyAllowed := keyAllowed }

/-- A key stands on a single line, and its colon at most so many octets behind its beginning. -/
def keyLength : Nat := 1024

def isStale (here : Place) (candidate : Candidate) : Bool :=
  candidate.place.line < here.line || candidate.place.index + keyLength < here.index

/-- Give up a candidate whose colon can no longer come. -/
def refresh (here : Place) (candidate : Option Candidate) : Option (Option Candidate) :=
  match candidate with
  | none => some none
  | some candidate =>
      if !isStale here candidate then some (some candidate)
      else if candidate.required then none
      else some none

def refreshCandidates (scanner : Scanner) : Option Scanner := do
  let here := scanner.input.here
  let candidate ← refresh here scanner.candidate
  let outerCandidates ← scanner.outerCandidates.mapM (refresh here)
  return { scanner with candidate := candidate, outerCandidates := outerCandidates }

/-! ## Indentation -/

/-- Whether a block collection at a column lies inside those that are open. -/
def opensBlock (scanner : Scanner) (column : Nat) : Bool :=
  !scanner.inFlow && scanner.indents.head?.all (· < column)

/-- Begin a block collection, unless there is one at the column already. -/
def openBlock (scanner : Scanner) (token : Token) : Scanner :=
  let column := scanner.input.column
  if scanner.opensBlock column then
    { scanner.emit token with indents := column :: scanner.indents }
  else scanner

/-- End the block collections that are indented by more than a column, or all of them. -/
def closeBlocks (scanner : Scanner) (column : Option Nat) : Scanner :=
  if scanner.inFlow then scanner
  else
    let inside (indent : Nat) : Bool := column.all (· < indent)
    let closed := (scanner.indents.takeWhile inside).foldl
      (fun scanner _ => scanner.emit .blockEnd) scanner
    { closed with indents := scanner.indents.dropWhile inside }

/-! ## Flow collections -/

def openFlow (scanner : Scanner) (token : Token) : Option Scanner := do
  let scanner ← scanner.saveCandidate
  let opened := { scanner with
    candidate := none
    outerCandidates := scanner.candidate :: scanner.outerCandidates
    keyAllowed := true }
  return opened.mark token 1

def closeFlow (scanner : Scanner) (token : Token) : Option Scanner := do
  let scanner ← scanner.dropCandidate
  let closed :=
    match scanner.outerCandidates with
    | [] => scanner
    | candidate :: outer => { scanner with candidate := candidate, outerCandidates := outer }
  return (closed.setKeyAllowed false).mark token 1

/-! ## Marks -/

/-- A mark that ends whatever was open. -/
def endAll (scanner : Scanner) : Option Scanner := do
  let scanner ← (scanner.closeBlocks none).dropCandidate
  return scanner.setKeyAllowed false

def directive (scanner : Scanner) : Option Scanner := do
  let scanner ← scanner.endAll
  scanner.scanned id (scanDirective (scanner.input.advance 1))

def documentMark (scanner : Scanner) (token : Token) : Option Scanner := do
  let scanner ← scanner.endAll
  return scanner.mark token 3

def flowEntry (scanner : Scanner) : Option Scanner := do
  let scanner ← scanner.dropCandidate
  return (scanner.setKeyAllowed true).mark .flowEntry 1

/-- Begin a member of a block collection that has a mark of its own. -/
def blockMember (scanner : Scanner) (opening : Token) : Option Scanner :=
  if scanner.inFlow then some scanner
  else if scanner.keyAllowed then some (scanner.openBlock opening)
  else none

def blockEntry (scanner : Scanner) : Option Scanner := do
  let scanner ← (← scanner.blockMember .blockListStart).dropCandidate
  return (scanner.setKeyAllowed true).mark .blockEntry 1

def key (scanner : Scanner) : Option Scanner := do
  let scanner ← (← scanner.blockMember .blockMapStart).dropCandidate
  return (scanner.setKeyAllowed !scanner.inFlow).mark .key 1

/-- Put the tokens of a key where a candidate begins. -/
def insertKey (scanner : Scanner) (candidate : Candidate) : Scanner :=
  let scanner := scanner.insert candidate.position .key
  let column := candidate.place.column
  if scanner.opensBlock column then
    { scanner.insert candidate.position .blockMapStart with indents := column :: scanner.indents }
  else scanner

def value (scanner : Scanner) : Option Scanner :=
  match scanner.candidate with
  | some candidate =>
      let scanner := { scanner.insertKey candidate with candidate := none, keyAllowed := false }
      some (scanner.mark .value 1)
  | none => do
      let scanner ← scanner.blockMember .blockMapStart
      return (scanner.setKeyAllowed !scanner.inFlow).mark .value 1

/-! ## Nodes -/

/-- Begin a node that may be a key, and behind which no key may begin. -/
def node (scanner : Scanner) : Option Scanner := do
  let scanner ← scanner.saveCandidate
  return scanner.setKeyAllowed false

def anchor (scanner : Scanner) (token : List Char → Token) : Option Scanner := do
  let scanner ← scanner.node
  scanner.scanned token (scanAnchor (scanner.input.advance 1))

def tag (scanner : Scanner) : Option Scanner := do
  let scanner ← scanner.node
  scanner.scanned .tag (scanTag scanner.inFlow scanner.input)

def block (scanner : Scanner) (folded : Bool) : Option Scanner := do
  let scanner ← scanner.dropCandidate
  (scanner.setKeyAllowed true).scanned (.scalar · false)
    (scanBlock folded scanner.leastIndent (scanner.input.advance 1))

def quoted (scanner : Scanner) (scan : List Char → Input → Option (List Char × Input)) :
    Option Scanner := do
  let scanner ← scanner.node
  scanner.scanned (.scalar · false) (scan [] (scanner.input.advance 1))

def plain (scanner : Scanner) : Option Scanner := do
  let scanner ← scanner.node
  let scan ← scanPlain scanner.inFlow scanner.leastIndent [] scanner.input
  return {
    scanner.emit (.scalar scan.text true) with
    input := scan.rest
    keyAllowed := scan.endsLine }

/-! ## The next token -/

/-- The rest behind white space and comments. A line break outside flow collections allows a key; a
tab is white space only where no key may begin. -/
def skipSpace (inFlow keyAllowed inComment : Bool) : Input → Input × Bool
  | [] => ([], keyAllowed)
  | place :: rest =>
      let c := place.char
      if isBreak c then skipSpace inFlow (keyAllowed || !inFlow) false rest
      else if inComment && c != endMark then skipSpace inFlow keyAllowed true rest
      else if c == '\uFEFF' && place.column == 0 then skipSpace inFlow keyAllowed false rest
      else if c == ' ' || (c == '\t' && (inFlow || !keyAllowed)) then
        skipSpace inFlow keyAllowed false rest
      else if c == '#' then skipSpace inFlow keyAllowed true rest
      else (place :: rest, keyAllowed)

/-- The characters that a plain scalar never begins with. -/
def isIndicator (c : Char) : Bool := "-?:,[]\x7b\x7d#&*!|>'\"%@\x60".toList.contains c

/-- Whether a plain scalar begins here. A few indicators may begin one where they are followed by
more of it. -/
def startsPlain (scanner : Scanner) : Bool :=
  let c := scanner.input.charAt 0
  let next := scanner.input.charAt 1
  !(isGap c || isIndicator c) || (c == '-' && !isBlank next) ||
    (!scanner.inFlow && (c == '?' || c == ':') && !isGap next)

/-- Scan what begins here, at something other than white space. -/
def token (scanner : Scanner) : Option Scanner :=
  let input := scanner.input
  let c := input.charAt 0
  let alone := isGap (input.charAt 1)
  let inFlow := scanner.inFlow
  if c == '%' && input.column == 0 then scanner.directive
  else if input.atMark '-' then scanner.documentMark .documentStart
  else if input.atMark '.' then scanner.documentMark .documentEnd
  else if c == '[' then scanner.openFlow .flowListStart
  else if c == '\x7b' then scanner.openFlow .flowMapStart
  else if c == ']' then scanner.closeFlow .flowListEnd
  else if c == '\x7d' then scanner.closeFlow .flowMapEnd
  else if c == ',' then scanner.flowEntry
  else if c == '-' && alone then scanner.blockEntry
  else if c == '?' && (inFlow || alone) then scanner.key
  else if c == ':' && (inFlow || alone) then scanner.value
  else if c == '*' then scanner.anchor .alias
  else if c == '&' then scanner.anchor .anchor
  else if c == '!' then scanner.tag
  else if c == '|' && !inFlow then scanner.block false
  else if c == '>' && !inFlow then scanner.block true
  else if c == '\'' then scanner.quoted scanSingleQuoted
  else if c == '"' then scanner.quoted scanDoubleQuoted
  else if scanner.startsPlain then scanner.plain
  else none

/-- Scan up to the end of the text, which ends all block collections. At most `limit` tokens begin
before the end. -/
def finish : (limit : Nat) → Scanner → Option (List Token)
  | limit, scanner => do
      let (input, keyAllowed) := skipSpace scanner.inFlow scanner.keyAllowed false scanner.input
      let scanner ← { scanner with input := input, keyAllowed := keyAllowed }.refreshCandidates
      let scanner := scanner.closeBlocks (some input.column)
      if input.atEnd then
        let scanner ← scanner.endAll
        return scanner.tokens.reverse
      else
        match limit with
        | 0 => none
        | limit + 1 => finish limit (← scanner.token)

end Scanner

/-- The tokens of a text. Every token takes at least one character. -/
def tokens? (input : Input) : Option (List Token) :=
  Scanner.finish input.length { input := input }

end ApiGraph.Yaml
