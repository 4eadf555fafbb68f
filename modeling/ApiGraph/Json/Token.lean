import ApiGraph.Json.Numeral
import ApiGraph.Source.Node

namespace ApiGraph.Json

open Source (Fault Scalar Data)

/-! The tokens of JSON text, which is a sequence of bytes. -/

inductive Token where
  | openList
  | closeList
  | openMap
  | closeMap
  | comma
  | colon
  | string (content : Except Fault String)
  | scalar (content : Scalar)
  /-- Something that is no token, with the fault for one who reads it and for one who passes over
  it. -/
  | broken (whenRead whenSkipped : Fault)
  /-- The beginning of a string that is never finished. -/
  | brokenString (whenRead whenSkipped : Fault)

/-! ## Scalars -/

def stringScalar (content : Except Fault String) : Scalar where
  text := content
  data := content.map .text
  isAbsent := .ok false
  isEmpty := false

def nullScalar : Scalar where
  text := .error .wrongShape
  data := .ok .null
  isAbsent := .ok true
  isEmpty := false

def boolScalar (value : Bool) : Scalar where
  text := .error .wrongShape
  data := .ok (.bool value)
  isAbsent := .ok false
  isEmpty := false

def numberScalar (numeral : Numeral) : Scalar :=
  match numeral.value? with
  | some value => ⟨.error .wrongShape, .ok (.number value), .ok false, false⟩
  | none => ⟨.error .malformed, .error .malformed, .ok false, false⟩

/-! ## Strings -/

/-- A scanned string with the rest of the text, or the faults that stopped the scan. -/
inductive StringScan where
  | closed (content : Except Fault String) (rest : List UInt8)
  | broken (whenRead whenSkipped : Fault)

def hexValue (byte : UInt8) : Option Nat :=
  let code := byte.toNat
  if 0x30 ≤ code ∧ code ≤ 0x39 then some (code - 0x30)
  else if 0x41 ≤ code ∧ code ≤ 0x46 then some (code - 0x41 + 10)
  else if 0x61 ≤ code ∧ code ≤ 0x66 then some (code - 0x61 + 10)
  else none

def hexUnit (a b c d : UInt8) : Option Nat :=
  match hexValue a, hexValue b, hexValue c, hexValue d with
  | some a, some b, some c, some d => some (a * 4096 + b * 256 + c * 16 + d)
  | _, _, _, _ => none

def isLowSurrogate (unit : Nat) : Bool := 0xDC00 ≤ unit && unit ≤ 0xDFFF

def isHighSurrogate (unit : Nat) : Bool := 0xD800 ≤ unit && unit ≤ 0xDBFF

def bytesOf (code : Nat) : List UInt8 := (String.singleton (Char.ofNat code)).toUTF8.toList

def simpleEscape (byte : UInt8) : Option UInt8 :=
  match byte.toNat with
  | 0x22 => some 0x22
  | 0x5C => some 0x5C
  | 0x2F => some 0x2F
  | 0x62 => some 0x08
  | 0x66 => some 0x0C
  | 0x6E => some 0x0A
  | 0x72 => some 0x0D
  | 0x74 => some 0x09
  | _ => none

/-- Whether the text after a high surrogate rules out that a low surrogate follows. -/
def startsOtherwise : List UInt8 → Bool
  | [] => false
  | [0x5C] => false
  | 0x5C :: 0x75 :: _ => false
  | _ => true

/-- The content of a string, whose bytes are collected in `collected` from the last one back. A lone
surrogate is a fault of the content only; the string goes on behind it. -/
def scanString (collected : List UInt8) (fault : Option Fault) : List UInt8 → StringScan
  | [] => .broken (fault.getD .ended) .ended
  | 0x22 :: rest =>
      match fault, String.fromUTF8? ⟨collected.reverse.toArray⟩ with
      | some fault, _ => .closed (.error fault) rest
      | none, some content => .closed (.ok content) rest
      | none, none => .closed (.error .malformed) rest
  | 0x5C :: 0x75 :: a :: b :: c :: d :: rest =>
      match hexUnit a b c d with
      | none => .broken (fault.getD .malformed) .malformed
      | some unit =>
          if isLowSurrogate unit then scanString collected (fault <|> some .malformed) rest
          else if isHighSurrogate unit then
            match rest with
            | 0x5C :: 0x75 :: e :: f :: g :: h :: behind =>
                match hexUnit e f g h with
                | none => .broken (fault.getD .malformed) .malformed
                | some low =>
                    if isLowSurrogate low then
                      let code := 0x10000 + (unit - 0xD800) * 0x400 + (low - 0xDC00)
                      scanString ((bytesOf code).reverse ++ collected) fault behind
                    else scanString collected (fault <|> some .malformed) behind
            | rest =>
                if startsOtherwise rest then scanString collected (fault <|> some .malformed) rest
                else scanString collected fault rest
          else scanString ((bytesOf unit).reverse ++ collected) fault rest
  | 0x5C :: 0x75 :: _ => .broken (fault.getD .ended) .ended
  | [0x5C] => .broken (fault.getD .ended) .ended
  | 0x5C :: byte :: rest =>
      match simpleEscape byte with
      | some meant => scanString (meant :: collected) fault rest
      | none => .broken (fault.getD .malformed) .malformed
  | byte :: rest =>
      if byte < 0x20 then .broken (fault.getD .malformed) .malformed
      else scanString (byte :: collected) fault rest

/-! ## Numbers -/

def digit? (byte : UInt8) : Option Nat :=
  if 0x30 ≤ byte ∧ byte ≤ 0x39 then some (byte.toNat - 0x30) else none

/-- The digits at the beginning of a text, and what follows them. -/
def digits : List UInt8 → List Nat × List UInt8
  | [] => ([], [])
  | byte :: rest =>
      match digit? byte with
      | some digit => let (more, rest) := digits rest; (digit :: more, rest)
      | none => ([], byte :: rest)

/-- A place where a digit has to stand and does not. One who reads the number misses the rest of it
where the text ends. -/
def missingDigit : List UInt8 → Token
  | [] => .broken .ended .malformed
  | _ :: _ => .broken .malformed .malformed

def scanExponent (negative : Bool) (whole : List Nat) (fraction : Option (List Nat))
    (rest : List UInt8) : Token × List UInt8 :=
  let number (exponent : Option (Bool × List Nat)) (rest : List UInt8) : Token × List UInt8 :=
    (.scalar (numberScalar ⟨negative, whole, fraction, exponent⟩), rest)
  let signed (below : Bool) (rest : List UInt8) : Token × List UInt8 :=
    match digits rest with
    | ([], rest) => (missingDigit rest, [])
    | (exponent, rest) => number (some (below, exponent)) rest
  match rest with
  | [] => number none []
  | mark :: behind =>
      if mark = 0x65 ∨ mark = 0x45 then
        match behind with
        | 0x2B :: behind => signed false behind
        | 0x2D :: behind => signed true behind
        | behind => signed false behind
      else number none rest

/-- A number, whose sign has been read. A leading zero stands alone. -/
def scanNumber (negative : Bool) (text : List UInt8) : Token × List UInt8 :=
  match digits text with
  | ([], rest) => (missingDigit rest, [])
  | (0 :: _ :: _, _) => (.broken .malformed .malformed, [])
  | (whole, 0x2E :: rest) =>
      match digits rest with
      | ([], rest) => (missingDigit rest, [])
      | (fraction, rest) => scanExponent negative whole (some fraction) rest
  | (whole, rest) => scanExponent negative whole none rest

/-! ## Words -/

/-- A word that is spelled out; the part of it that the text has is followed as far as it goes. -/
def scanWord (content : Scalar) : List UInt8 → List UInt8 → Token × List UInt8
  | [], rest => (.scalar content, rest)
  | _ :: _, [] => (.broken .ended .ended, [])
  | expected :: word, found :: rest =>
      if expected = found then scanWord content word rest else (.broken .malformed .malformed, [])

/-! ## Tokens -/

/-- The token that begins with a byte, and the text behind it. -/
def tokenAt (first : UInt8) (rest : List UInt8) : Token × List UInt8 :=
  match first.toNat with
  | 0x5B => (.openList, rest)
  | 0x5D => (.closeList, rest)
  | 0x7B => (.openMap, rest)
  | 0x7D => (.closeMap, rest)
  | 0x2C => (.comma, rest)
  | 0x3A => (.colon, rest)
  | 0x22 =>
      match scanString [] none rest with
      | .closed content rest => (.string content, rest)
      | .broken whenRead whenSkipped => (.brokenString whenRead whenSkipped, [])
  | 0x2D => scanNumber true rest
  | 0x6E => scanWord nullScalar "ull".toUTF8.toList rest
  | 0x74 => scanWord (boolScalar true) "rue".toUTF8.toList rest
  | 0x66 => scanWord (boolScalar false) "alse".toUTF8.toList rest
  | _ =>
      match digit? first with
      | some _ => scanNumber false (first :: rest)
      | none => (.broken .malformed .malformed, [])

def isSpace (byte : UInt8) : Bool :=
  byte == 0x20 || byte == 0x0A || byte == 0x09 || byte == 0x0D

/-- All tokens of a text, up to the first thing that is none. `budget` bounds their number; a text
has no more tokens than bytes. -/
def tokensWithin : (budget : Nat) → List UInt8 → List Token
  | 0, _ => []
  | budget + 1, text =>
      match text.dropWhile isSpace with
      | [] => []
      | first :: rest =>
          let (token, rest) := tokenAt first rest
          token :: tokensWithin budget rest

def tokens (text : List UInt8) : List Token := tokensWithin text.length text

end ApiGraph.Json
