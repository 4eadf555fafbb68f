import ApiGraph.Decimal.Binary64

namespace ApiGraph.Decimal

/-! The shortest decimal text of a binary number: the fewest digits that are read back as the same
number, and among those the ones nearest to it. -/

/-- `digits · 10 ^ exponent`. -/
structure Scientific where
  digits : Nat
  exponent : Int
  deriving DecidableEq, Repr

namespace Binary64

/-! The numbers that round to a given number form an interval around it. Its ends are exact
quotients over the denominator `4`, in units of `2 ^ exponent`: below a power of two the numbers lie
twice as dense, so there the lower end is nearer. Ends belong to the interval when the significand
is even. -/

structure Interval where
  lower : Nat
  middle : Nat
  upper : Nat
  closed : Bool

def interval (number : Binary64) : Interval where
  lower :=
    if number.significand = Nat.pow 2 (precision - 1) ∧ leastExponent < number.exponent then
      4 * number.significand - 1
    else 4 * number.significand - 2
  middle := 4 * number.significand
  upper := 4 * number.significand + 2
  closed := number.significand % 2 = 0

/-- Whether `digits` lies in the interval when all are measured in the same unit. -/
def Interval.holds (interval : Interval) (digits unit : Nat) (scale : Nat) : Bool :=
  let value := digits * unit
  if interval.closed then interval.lower * scale ≤ value && value ≤ interval.upper * scale
  else interval.lower * scale < value && value < interval.upper * scale

/-- The decimal exponent of the leading digit of a quotient that is not zero. -/
def leadingExponent (numerator denominator : Nat) : Int :=
  if denominator ≤ numerator then ((Nat.toDigits 10 (numerator / denominator)).length : Int) - 1
  else
    match (List.range 400).find? fun places => denominator ≤ numerator * Nat.pow 10 places with
    | some places => -(places : Int)
    | none => -400

/-- The multiple of `10 ^ exponent` that reads back as the number, if there is one. Of two
neighbours that do, the nearer is taken, and the even one on a tie. -/
def onGrid? (number : Binary64) (exponent : Int) : Option Scientific :=
  let (scaleUp, scaleDown) : Nat × Nat :=
    if number.exponent < 0 then (1, Nat.pow 2 number.exponent.natAbs)
    else (Nat.pow 2 number.exponent.natAbs, 1)
  let (gridUp, gridDown) : Nat × Nat :=
    if exponent < 0 then (1, Nat.pow 10 exponent.natAbs)
    else (Nat.pow 10 exponent.natAbs, 1)
  let unit := 4 * gridUp * scaleDown
  let scale := scaleUp * gridDown
  let range := number.interval
  let below := range.middle * scale / unit
  let above := below + 1
  let gapBelow := range.middle * scale - below * unit
  let gapAbove := above * unit - range.middle * scale
  match range.holds below unit scale && below != 0, range.holds above unit scale with
  | false, false => none
  | true, false => some ⟨below, exponent⟩
  | false, true => some ⟨above, exponent⟩
  | true, true =>
      if gapBelow < gapAbove ∨ (gapBelow = gapAbove ∧ below % 2 = 0) then some ⟨below, exponent⟩
      else some ⟨above, exponent⟩

/-- The shortest decimal that reads back as a number other than zero. Seventeen digits always do. -/
def shortest (number : Binary64) : Scientific :=
  let (numerator, denominator) := number.quotient
  let leading := leadingExponent numerator denominator
  match (List.range 17).findSome? fun (places : Nat) => number.onGrid? (leading - places) with
  | some found => found
  | none => ⟨0, 0⟩

end Binary64

/-! ## Text -/

/-- How a number is written: plainly while its leading digit stands between the two exponents, and
otherwise with an exponent behind `e`. -/
structure Style where
  leastPlain : Int
  greatestPlain : Int

/-- Numbers in answers are plain from `0.00001` up to sixteen digits before the point. -/
def answerStyle : Style := ⟨-5, 15⟩

def zeros (count : Nat) : String := String.ofList (List.replicate count '0')

/-- Digits with a point behind the first `whole` of them. -/
def pointed (digits : List Char) (whole : Nat) : String :=
  String.ofList (digits.take whole) ++ "." ++ String.ofList (digits.drop whole)

/-- A text always shows that the number is a floating-point number: by a fraction or by an
exponent. -/
def Style.write (style : Style) (number : Binary64) : String :=
  let sign := if number.negative then "-" else ""
  if number.isZero then sign ++ "0.0"
  else
    let found := number.shortest
    let all := Nat.toDigits 10 found.digits
    let digits := (all.reverse.dropWhile (· == '0')).reverse
    let leading : Int := found.exponent + all.length - 1
    let text :=
      if style.leastPlain ≤ leading ∧ leading ≤ style.greatestPlain then
        if leading < 0 then "0." ++ zeros (leading.natAbs - 1) ++ String.ofList digits
        else if digits.length ≤ leading.natAbs + 1 then
          String.ofList digits ++ zeros (leading.natAbs + 1 - digits.length) ++ ".0"
        else pointed digits (leading.natAbs + 1)
      else
        let significand := if digits.length = 1 then String.ofList digits else pointed digits 1
        let mark := if leading < 0 then "-" else "+"
        significand ++ "e" ++ mark ++ toString leading.natAbs
    sign ++ text

end ApiGraph.Decimal
