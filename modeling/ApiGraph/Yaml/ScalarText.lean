import ApiGraph.Yaml.Input

namespace ApiGraph.Yaml

/-! The text of scalars. Where a scalar goes over several lines, its line breaks are folded. -/

/-! ## Folding -/

def isSpace (c : Char) : Bool := isBlank c || isBreak c

/-- A single line break becomes a blank. Of several, the first is dropped. -/
def foldBreaks : List Char → List Char
  | ['\n'] => [' ']
  | '\n' :: more => more
  | breaks => breaks

/-- Blanks around line breaks do not count. -/
def foldSpace (space : List Char) : List Char :=
  match space.filter isBreak with
  | [] => space
  | breaks => foldBreaks breaks

example : foldSpace "  ".toList = "  ".toList := by decide
example : foldSpace " \n  ".toList = " ".toList := by decide
example : foldSpace "\n\n \n".toList = "\n\n".toList := by decide

/-! ## Quoted scalars -/

/-- The rest of a scalar in single quotes; `text` is what stands before, backwards. -/
def scanSingleQuoted (text : List Char) (input : Input) : Option (List Char × Input) :=
  match input with
  | [] => none
  | place :: rest =>
      if input.atDocumentMark || place.char == endMark then none
      else if isSpace place.char then
        scanSingleQuoted ((foldSpace (input.span isSpace).text).reverse ++ text)
          (Input.skip rest isSpace)
      else if place.char == '\'' then
        match rest with
        | ⟨'\'', _, _, _⟩ :: rest => scanSingleQuoted ('\'' :: text) rest
        | _ => some (text.reverse, rest)
      else scanSingleQuoted (place.char :: text) rest
termination_by input.length
decreasing_by
  · exact Nat.lt_succ_of_le (Input.length_skip_le _ _)
  · exact Nat.lt_succ_of_lt (Nat.lt_succ_self _)
  · exact Nat.lt_succ_self _

/-- What an escape stands for: a character, or the one whose code follows in so many digits. -/
inductive Escape where
  | char (c : Char)
  | code (digits : Nat)

def escape? : Char → Option Escape
  | '0' => some (.char '\x00')
  | 'a' => some (.char '\x07')
  | 'b' => some (.char '\x08')
  | 't' => some (.char '\t')
  | '\t' => some (.char '\t')
  | 'n' => some (.char '\n')
  | 'v' => some (.char '\x0b')
  | 'f' => some (.char '\x0c')
  | 'r' => some (.char '\r')
  | 'e' => some (.char '\x1b')
  | ' ' => some (.char ' ')
  | '"' => some (.char '"')
  | '/' => some (.char '/')
  | '\\' => some (.char '\\')
  | 'N' => some (.char '\u0085')
  | '_' => some (.char '\u00a0')
  | 'L' => some (.char '\u2028')
  | 'P' => some (.char '\u2029')
  | 'x' => some (.code 2)
  | 'u' => some (.code 4)
  | 'U' => some (.code 8)
  | _ => none

def hexValue? (c : Char) : Option Nat :=
  if '0' ≤ c ∧ c ≤ '9' then some (c.toNat - '0'.toNat)
  else if 'a' ≤ c ∧ c ≤ 'f' then some (c.toNat - 'a'.toNat + 10)
  else if 'A' ≤ c ∧ c ≤ 'F' then some (c.toNat - 'A'.toNat + 10)
  else none

def hexCode? (digits : List Char) : Option Nat := do
  let values ← digits.mapM hexValue?
  return values.foldl (fun code value => 16 * code + value) 0

/-- The character of a code in exactly so many digits. -/
def codedChar? (digits : List Char) (count : Nat) : Option Char := do
  let code ← hexCode? digits
  if digits.length = count ∧ Nat.isValidChar code then some (Char.ofNat code) else none

/-- The rest of a scalar in double quotes; `text` is what stands before, backwards. -/
def scanDoubleQuoted (text : List Char) (input : Input) : Option (List Char × Input) :=
  match input with
  | [] => none
  | place :: rest =>
      if input.atDocumentMark || place.char == endMark then none
      else if isSpace place.char then
        scanDoubleQuoted ((foldSpace (input.span isSpace).text).reverse ++ text)
          (Input.skip rest isSpace)
      else if place.char == '"' then some (text.reverse, rest)
      else if place.char == '\\' then
        match rest with
        | [] => none
        | marker :: rest =>
            if isBreak marker.char then
              let breaks := (Input.span rest isSpace).text.filter isBreak
              scanDoubleQuoted (breaks.reverse ++ text) (Input.skip rest isSpace)
            else
              match escape? marker.char with
              | none => none
              | some (.char c) => scanDoubleQuoted (c :: text) rest
              | some (.code count) =>
                  match codedChar? (Input.text (rest.take count)) count with
                  | none => none
                  | some c => scanDoubleQuoted (c :: text) (Input.advance rest count)
      else scanDoubleQuoted (place.char :: text) rest
termination_by input.length
decreasing_by
  · exact Nat.lt_succ_of_le (Input.length_skip_le _ _)
  · exact Nat.lt_succ_of_le (Nat.le_succ_of_le (Input.length_skip_le _ _))
  · exact Nat.lt_succ_of_lt (Nat.lt_succ_self _)
  · exact Nat.lt_succ_of_le (Nat.le_succ_of_le (Input.length_advance_le _ _))
  · exact Nat.lt_succ_self _

/-! ## Plain scalars -/

structure PlainScan where
  text : List Char
  /-- Whether the scalar is followed by a line break. -/
  endsLine : Bool
  rest : Input

def isFlowMark (c : Char) : Bool :=
  c == ',' || c == '[' || c == ']' || c == '\x7b' || c == '\x7d'

/-- Whether a plain scalar ends before a character that is not white space. -/
def endsPlain (inFlow : Bool) (input : Input) : Bool :=
  input.atEnd || (input.charAt 0 == ':' && isGap (input.charAt 1)) ||
    (inFlow && isFlowMark (input.charAt 0))

/-- Whether a colon in a flow collection could be both part of a scalar and the end of one. -/
def isAmbiguousColon (inFlow : Bool) (input : Input) : Bool :=
  inFlow && input.charAt 0 == ':' && (isFlowMark (input.charAt 1) || input.charAt 1 == '?')

/-- Whether a tab stands in the indentation of a line after the first. -/
def hasTabIndent (indent : Nat) (space : Input) : Bool :=
  (space.skip isBlank).any fun place => place.char == '\t' && place.column < indent

/-- The rest of a plain scalar whose lines are indented by at least `indent`; `text` is what stands
before, backwards. -/
def scanPlain (inFlow : Bool) (indent : Nat) (text : List Char) (input : Input) :
    Option PlainScan :=
  match input with
  | [] => some ⟨text.reverse, false, input⟩
  | place :: rest =>
      if isSpace place.char then
        let space := input.span isSpace
        let after := Input.skip rest isSpace
        if hasTabIndent indent space then none
        else if (!inFlow && after.column < indent) || after.atDocumentMark ||
            after.charAt 0 == '#' || endsPlain inFlow after then
          some ⟨text.reverse, space.text.any isBreak, after⟩
        else scanPlain inFlow indent ((foldSpace space.text).reverse ++ text) after
      else if endsPlain inFlow input then some ⟨text.reverse, false, input⟩
      else if isAmbiguousColon inFlow input then none
      else scanPlain inFlow indent (place.char :: text) rest
termination_by input.length
decreasing_by
  · exact Nat.lt_succ_of_le (Input.length_skip_le _ _)
  · exact Nat.lt_succ_self _

/-! ## Block scalars -/

/-- What becomes of the line breaks at the end of a block. -/
inductive Chomping where
  | strip
  | clip
  | keep
  deriving DecidableEq, Repr

structure BlockHeader where
  chomping : Chomping
  /-- How much further the block is indented than what it stands in, where that is said. -/
  increment : Option Nat
  rest : Input

def chomping? : Char → Option Chomping
  | '-' => some .strip
  | '+' => some .keep
  | _ => none

def increment? (c : Char) : Option Nat :=
  if '1' ≤ c ∧ c ≤ '9' then some (c.toNat - '0'.toNat) else none

/-- The header of a block, in which chomping and increment stand in any order. -/
def scanBlockHeader (input : Input) : Option BlockHeader :=
  let first := input.charAt 0
  let second := input.charAt 1
  let (chomping, increment, length) :=
    match chomping? first, increment? first with
    | some chomping, _ =>
        match increment? second with
        | some increment => (chomping, some increment, 2)
        | none => (chomping, none, 1)
    | none, some increment =>
        match chomping? second with
        | some chomping => (chomping, some increment, 2)
        | none => (.clip, some increment, 1)
    | none, none => (.clip, none, 0)
  (input.advance length).skipLineEnd?.map fun rest => ⟨chomping, increment, rest⟩

/-- The empty lines that a text begins with, and the widest of them or of the indentation that
follows them. Indentation ends at column `indent` where that is known, and holds no tabs. -/
def scanEmptyLines (indent : Option Nat) (widest : Nat) : Input → Option (List Char × Nat × Input)
  | [] => some ([], widest, [])
  | place :: rest =>
      let inside := indent.all (place.column < ·)
      if inside && place.char == ' ' then scanEmptyLines indent widest rest
      else if inside && place.char == '\t' then none
      else if isBreak place.char then
        (scanEmptyLines indent (max widest place.column) rest).map fun (breaks, widest, rest) =>
          (place.char :: breaks, widest, rest)
      else some ([], max widest place.column, place :: rest)

theorem length_le_of_scanEmptyLines {indent : Option Nat} {widest least : Nat} {input rest : Input}
    {breaks : List Char}
    (scanned : scanEmptyLines indent widest input = some (breaks, least, rest)) :
    rest.length ≤ input.length := by
  induction input generalizing widest least breaks with
  | nil =>
      simp only [scanEmptyLines, Option.some.injEq, Prod.mk.injEq] at scanned
      simp [← scanned.2.2]
  | cons place input induction =>
      simp only [scanEmptyLines] at scanned
      split at scanned
      · exact Nat.le_succ_of_le (induction scanned)
      · split at scanned
        · cases scanned
        · split at scanned
          · obtain ⟨⟨_, _, _⟩, inner, equal⟩ := Option.map_eq_some_iff.mp scanned
            cases equal
            exact Nat.le_succ_of_le (induction inner)
          · cases scanned
            exact Nat.le_refl _

/-- The part of a block that has been read. -/
structure BlockText where
  /-- The text, backwards. -/
  text : List Char := []
  /-- The line break behind the last line. -/
  lastBreak : List Char := []
  /-- The line breaks of the empty lines that follow. -/
  emptyLines : List Char := []
  /-- Whether the last line begins with a blank. -/
  indented : Bool := false

/-- Append a line. Between two lines that do not begin with a blank, a folded block has a blank for
a single line break and drops the first of several. -/
def BlockText.append (block : BlockText) (folded : Bool) (line lastBreak emptyLines : List Char) :
    BlockText :=
  let indented := line.head?.any isBlank
  let joint :=
    if folded && block.lastBreak == ['\n'] && !block.indented && !indented then
      if block.emptyLines.isEmpty then [' '] else []
    else block.lastBreak
  { text := line.reverse ++ (joint ++ block.emptyLines).reverse ++ block.text
    lastBreak := lastBreak
    emptyLines := emptyLines
    indented := indented }

def BlockText.finish (block : BlockText) : Chomping → List Char
  | .strip => block.text.reverse
  | .clip => block.text.reverse ++ block.lastBreak
  | .keep => block.text.reverse ++ block.lastBreak ++ block.emptyLines

/-- The lines of a block that are indented by `indent`. -/
def scanBlockLines (folded : Bool) (indent : Nat) (block : BlockText) (input : Input) :
    Option (BlockText × Input) :=
  match input with
  | [] => some (block, input)
  | place :: rest =>
      if place.column = indent ∧ place.char ≠ endMark then
        let line := place.char :: (Input.span rest fun c => !isBreakOrEnd c).text
        let behind := Input.skip rest fun c => !isBreakOrEnd c
        let lastBreak := if behind.atEnd then [] else [behind.charAt 0]
        match _ : scanEmptyLines (some indent) 0 (behind.advance lastBreak.length) with
        | none => none
        | some (emptyLines, _, further) =>
            scanBlockLines folded indent (block.append folded line lastBreak emptyLines) further
      else some (block, input)
termination_by input.length
decreasing_by
  next scanned =>
  have scanned := length_le_of_scanEmptyLines scanned
  have advanced := Input.length_advance_le behind lastBreak.length
  have skipped : behind.length ≤ rest.length := Input.length_skip_le rest _
  exact Nat.lt_succ_of_le (Nat.le_trans scanned (Nat.le_trans advanced skipped))

/-- A block from behind its mark on. Its lines are indented by at least `least`, which is one more
than the collection that it stands in. -/
def scanBlock (folded : Bool) (least : Nat) (input : Input) : Option (List Char × Input) := do
  let header ← scanBlockHeader input
  let known := header.increment.map (· + (least - 1))
  let (emptyLines, widest, rest) ← scanEmptyLines known 0 header.rest
  let indent := known.getD (max widest (max least 1))
  let (block, rest) ← scanBlockLines folded indent { emptyLines := emptyLines } rest
  return (block.finish header.chomping, rest)

end ApiGraph.Yaml
