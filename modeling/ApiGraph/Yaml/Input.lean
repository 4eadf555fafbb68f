namespace ApiGraph.Yaml

/-! The characters of YAML text with their places. Everything that depends on indentation or on line
breaks is read off the place of a character. -/

/-! ## Characters -/

/-- The character that marks the end of the text. No text contains it. -/
def endMark : Char := '\x00'

def isAllowed (c : Char) : Bool :=
  let code := c.toNat
  code == 0x09 || code == 0x0A || code == 0x0D || (0x20 ≤ code && code ≤ 0x7E) || code == 0x85 ||
    (0xA0 ≤ code && code ≤ 0xFFFD) || 0x10000 ≤ code

/-- The separators of lines and paragraphs break lines, but are not folded with them. -/
def isSeparator (c : Char) : Bool := c == '\u2028' || c == '\u2029'

def isBreak (c : Char) : Bool := c == '\n' || isSeparator c

def isBlank (c : Char) : Bool := c == ' ' || c == '\t'

def isBreakOrEnd (c : Char) : Bool := isBreak c || c == endMark

/-- Whether a word ends before a character. -/
def isGap (c : Char) : Bool := isBlank c || isBreakOrEnd c

/-- The characters of anchors and handles. -/
def isWord (c : Char) : Bool := c.isAlphanum || c == '_' || c == '-'

/-- The ways to break a line count as one. -/
def unifyBreaks : List Char → List Char
  | [] => []
  | '\r' :: '\n' :: rest => '\n' :: unifyBreaks rest
  | c :: rest => (if c = '\r' ∨ c = '\u0085' then '\n' else c) :: unifyBreaks rest

/-! ## Places -/

/-- A character with the number of octets before it, and its line and column. -/
structure Place where
  char : Char
  index : Nat
  line : Nat
  column : Nat
  deriving Inhabited

abbrev Input := List Place

namespace Input

def placesFrom (index line column : Nat) : List Char → Input
  | [] => [⟨endMark, index, line, column⟩]
  | c :: rest =>
      ⟨c, index, line, column⟩ ::
        if isBreak c then placesFrom (index + c.utf8Size) (line + 1) 0 rest
        else placesFrom (index + c.utf8Size) line (column + 1) rest

/-- The places of a text, unless it contains a character that YAML does not allow. -/
def ofText? (text : List Char) : Option Input :=
  if text.all isAllowed then some (placesFrom 0 0 0 (unifyBreaks text)) else none

/-- The place that the rest of a text begins at. -/
def here (input : Input) : Place := input.head?.getD ⟨endMark, 0, 0, 0⟩

def advance (input : Input) (distance : Nat) : Input := input.drop distance

/-- The character that is so many places ahead. -/
def charAt (input : Input) (distance : Nat) : Char := (input.advance distance).here.char

def column (input : Input) : Nat := input.here.column

def atEnd (input : Input) : Bool := input.charAt 0 == endMark

/-- Whether a mark of three characters stands alone at the beginning of a line. -/
def atMark (input : Input) (c : Char) : Bool :=
  input.column == 0 && input.charAt 0 == c && input.charAt 1 == c && input.charAt 2 == c &&
    isGap (input.charAt 3)

def atDocumentMark (input : Input) : Bool := input.atMark '-' || input.atMark '.'

/-- The places up to the first character that does not pass. -/
def span (input : Input) (passes : Char → Bool) : Input :=
  input.takeWhile fun place => passes place.char

/-- The rest from the first character on that does not pass. -/
def skip (input : Input) (passes : Char → Bool) : Input :=
  input.dropWhile fun place => passes place.char

def text (input : Input) : List Char := input.map Place.char

theorem length_skip_le (input : Input) (passes : Char → Bool) :
    (input.skip passes).length ≤ input.length :=
  List.Sublist.length_le (List.dropWhile_sublist _)

theorem length_advance_le (input : Input) (distance : Nat) :
    (input.advance distance).length ≤ input.length := by
  simp [advance]

/-- The rest after a comment, if there is one. -/
def skipComment (input : Input) : Input :=
  if input.charAt 0 == '#' then input.skip fun c => !isBreakOrEnd c else input

/-- The rest of a text behind the end of a line, where nothing but a comment may be left on it. -/
def skipLineEnd? (input : Input) : Option Input :=
  let rest := (input.skip isBlank).skipComment
  if isBreak (rest.charAt 0) then some (rest.advance 1)
  else if rest.atEnd then some rest
  else none

end Input

end ApiGraph.Yaml
