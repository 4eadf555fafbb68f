import ApiGraph.Text

namespace ApiGraph.Terminal

/-! Colors on a terminal. A command says what a piece of text is; the palette says what that looks
like. -/

inductive Theme where
  | dark
  | light
  deriving DecidableEq, Repr

/-- What a piece of text is. -/
inductive Role where
  | timestamp
  | progress
  | label
  | value
  | cycle
  | detail
  | warning
  | success
  deriving DecidableEq, Repr

structure Color where
  red : Nat
  green : Nat
  blue : Nat
  deriving DecidableEq, Repr

def Theme.color : Theme → Role → Color
  | .dark, .timestamp => ⟨118, 166, 166⟩
  | .dark, .progress => ⟨191, 126, 4⟩
  | .dark, .label => ⟨217, 164, 4⟩
  | .dark, .value => ⟨242, 211, 56⟩
  | .dark, .cycle => ⟨166, 84, 55⟩
  | .dark, .detail => ⟨200, 200, 190⟩
  | .dark, .warning => ⟨230, 120, 60⟩
  | .dark, .success => ⟨120, 190, 120⟩
  | .light, .timestamp => ⟨92, 62, 38⟩
  | .light, .progress => ⟨70, 42, 25⟩
  | .light, .label => ⟨176, 103, 66⟩
  | .light, .value => ⟨199, 146, 76⟩
  | .light, .cycle => ⟨211, 99, 70⟩
  | .light, .detail => ⟨60, 60, 60⟩
  | .light, .warning => ⟨168, 64, 20⟩
  | .light, .success => ⟨34, 142, 90⟩

/-- How text is shown. Without colors every piece of text has the usual one. -/
structure Style where
  colored : Bool
  theme : Theme
  deriving DecidableEq, Repr

/-- Switch to a color. -/
def Color.escape (color : Color) : String :=
  "\x1b[38;2;" ++ toString color.red ++ ";" ++ toString color.green ++ ";" ++
    toString color.blue ++ "m"

/-- Switch back to the usual color. -/
def usualColor : String := "\x1b[39m"

def Style.paint (style : Style) (role : Role) (text : String) : String :=
  (if style.colored then (style.theme.color role).escape else usualColor) ++ text ++ usualColor

/-! ## The background

A terminal may tell the colors of its text and of its background as numbers, with the background
last. From 8 on they are light. -/

/-- The value of a number of at most one byte. -/
def byte? (text : List Char) : Option Nat :=
  let digits := match text with
    | '+' :: digits => digits
    | _ => text
  if digits.isEmpty || !digits.all Char.isDigit then none
  else
    let value := digits.foldl (fun value digit => 10 * value + (digit.toNat - '0'.toNat)) 0
    if value < 256 then some value else none

def leastLight : Nat := 8

def Theme.ofBackground (colors : Option String) : Theme :=
  match colors.bind fun colors => byte? (Text.lastPiece ';' colors.toList) with
  | some background => if leastLight ≤ background then .light else .dark
  | none => .dark

example : Theme.ofBackground (some "0;15") = .light := by decide
example : Theme.ofBackground (some "15;default;0") = .dark := by decide

end ApiGraph.Terminal
