import ApiGraph.Decimal.Binary64
import ApiGraph.Source.Node
import ApiGraph.Text
import ApiGraph.Yaml.Property

namespace ApiGraph.Yaml

open Decimal (Binary64)
open Source (Data Fault Scalar)

/-! What scalars stand for. A plain scalar may be null, a boolean, an integer or a floating-point
number; a tag may say which. Everything else is text. -/

/-! ## Tags -/

inductive Tag where
  | null
  | bool
  | integer
  | real
  /-- A type that is known to no reader. -/
  | custom
  /-- A type whose name is no text. It says nothing. -/
  | illegible
  /-- Any other type, text among them. -/
  | other
  deriving DecidableEq, Repr

/-- The tags of the core schema begin like this. -/
def coreLead : List UInt8 := octets "tag:yaml.org,2002:".toList

/-- The URI of a type of the core schema. -/
def coreUri (name : String) : List UInt8 := coreLead ++ octets name.toList

/-- Whether octets are the UTF-8 encoding of a text. -/
def isText (octets : List UInt8) : Bool := (String.fromUTF8? ⟨octets.toArray⟩).isSome

/-- The tag of a URI. One that begins with a mark belongs to a single text. -/
def Tag.ofUri (uri : List UInt8) : Tag :=
  if uri = coreUri "null" then .null
  else if uri = coreUri "bool" then .bool
  else if uri = coreUri "int" then .integer
  else if uri = coreUri "float" then .real
  else if uri.head? != some tagMark then .other
  else if isText uri then .custom
  else .illegible

/-! ## Null and booleans -/

def isNull (text : List Char) : Bool :=
  ["null".toList, "Null".toList, "NULL".toList, "~".toList].contains text

def bool? (text : List Char) : Option Bool :=
  if ["true".toList, "True".toList, "TRUE".toList].contains text then some true
  else if ["false".toList, "False".toList, "FALSE".toList].contains text then some false
  else none

/-! ## Integers -/

def unsigned (text : List Char) : List Char :=
  match text with
  | '+' :: rest => rest
  | '-' :: rest => rest
  | _ => text

/-- Digits behind a zero are not a number. -/
def hasLeadingZero (text : List Char) : Bool :=
  match unsigned text with
  | '0' :: digit :: rest => (digit :: rest).all Char.isDigit
  | _ => false

/-- The value of digits to a base, of which there is at least one. -/
def digits? (base : Nat) (text : List Char) : Option Nat := do
  if text.isEmpty then none
  let values ← text.mapM hexValue?
  if values.all (· < base) then some (values.foldl (fun value digit => base * value + digit) 0)
  else none

/-- The base that the lead of a magnitude names, and its digits. -/
def based? : List Char → Option (Nat × List Char)
  | '0' :: 'x' :: digits => some (16, digits)
  | '0' :: 'o' :: digits => some (8, digits)
  | '0' :: 'b' :: digits => some (2, digits)
  | _ => none

def magnitude? (text : List Char) : Option Nat :=
  match based? text with
  | some (base, digits) => digits? base digits
  | none => if hasLeadingZero text then none else digits? 10 text

/-- The integer that a text is. -/
def integer? : List Char → Option Int
  | '+' :: text => (magnitude? text).map (·)
  | '-' :: text => (magnitude? text).map (-·)
  | text => (magnitude? text).map (·)

/-- The integers of 64 bits, with a sign or without. -/
def isWord64 (value : Int) : Bool := -Int.pow 2 63 ≤ value && value < Int.pow 2 64

/-- The integers of 128 bits, with a sign or without. -/
def isWord128 (value : Int) : Bool := -Int.pow 2 127 ≤ value && value < Int.pow 2 128

/-- An integer as data. One that takes more than 64 bits is read by nobody; one that takes more than
128 bits is no integer. -/
def integerData? (text : List Char) : Option (Except Fault Data) :=
  match integer? text with
  | none => none
  | some value =>
      if isWord64 value then some (.ok (.number (.integer value)))
      else if isWord128 value then some (.error .wrongShape)
      else none

/-! ## Floating-point numbers -/

/-- The exponent at the end of a decimal number. -/
def exponent? : List Char → Option Int
  | [] => some 0
  | mark :: text =>
      if mark = 'e' ∨ mark = 'E' then
        match text with
        | '-' :: digits => (digits? 10 digits).map (-·)
        | '+' :: digits => (digits? 10 digits).map (·)
        | digits => (digits? 10 digits).map (·)
      else none

/-- A decimal number without a sign, rounded to the format. There is a digit before or behind the
point. -/
def decimal? (negative : Bool) (text : List Char) : Option Binary64 := do
  let whole := text.takeWhile Char.isDigit
  let (fraction, rest) :=
    match text.dropWhile Char.isDigit with
    | '.' :: rest => (rest.takeWhile Char.isDigit, rest.dropWhile Char.isDigit)
    | rest => ([], rest)
  let significand ← digits? 10 (whole ++ fraction)
  let exponent ← exponent? rest
  Binary64.ofDecimal negative significand (exponent - fraction.length)

def isInfinity (text : List Char) : Bool :=
  [".inf".toList, ".Inf".toList, ".INF".toList].contains text

def isNotNumber (text : List Char) : Bool :=
  [".nan".toList, ".NaN".toList, ".NAN".toList].contains text

def realData? (text : List Char) : Option Data :=
  if isInfinity (unsigned text) || isNotNumber text then some .unbounded
  else
    (decimal? (text.head? == some '-') (unsigned text)).map fun value => .number (.real value)

/-! ## Scalars -/

/-- What a plain scalar without a tag stands for. -/
def plainData (text : List Char) : Except Fault Data :=
  if text.isEmpty || isNull text then .ok .null
  else
    match bool? text, integerData? text with
    | some value, _ => .ok (.bool value)
    | none, some result => result
    | none, none =>
        match if hasLeadingZero text then none else realData? text with
        | some data => .ok data
        | none => .ok (.text (String.ofList text))

/-- What a scalar without a tag stands for. -/
def untaggedData (text : List Char) (plain : Bool) : Except Fault Data :=
  if plain then plainData text else .ok (.text (String.ofList text))

/-- What a scalar of a tag stands for. The text has to be one of its type. -/
def taggedData (text : List Char) (plain : Bool) : Tag → Except Fault Data
  | .null => if isNull text then .ok .null else .error .wrongShape
  | .bool => ((bool? text).map fun value => .ok (.bool value)).getD (.error .wrongShape)
  | .integer => (integerData? text).getD (.error .wrongShape)
  | .real => ((realData? text).map Except.ok).getD (.error .wrongShape)
  | .custom => .error .wrongShape
  | .illegible => untaggedData text plain
  | .other => .ok (.text (String.ofList text))

/-- Whether a scalar stands for the lack of an optional value. Under a tag only null does. -/
def isAbsent (text : List Char) (plain : Bool) (tag : Option Tag) : Except Fault Bool :=
  match plain, tag with
  | false, _ => .ok false
  | true, none => .ok (text.isEmpty || isNull text)
  | true, some .null => if isNull text then .ok true else .error .wrongShape
  | true, some _ => .ok false

/-- A scalar for its readers. Where text is wanted, every scalar is its text as it is written. -/
def scalar (text : List Char) (plain : Bool) (tag : Option Tag) : Scalar where
  text := .ok (String.ofList text)
  data :=
    match tag with
    | some tag => taggedData text plain tag
    | none => untaggedData text plain
  isAbsent := isAbsent text plain tag
  isEmpty := plain && text.isEmpty

end ApiGraph.Yaml
