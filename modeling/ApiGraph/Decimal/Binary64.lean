namespace ApiGraph.Decimal

/-! The finite numbers of the 64-bit binary floating-point format, in exact arithmetic. A value is
`± significand · 2 ^ exponent`. Every operation rounds an exact quotient of natural numbers once, to
the nearest number of the format and on a tie to the one with the even significand. -/

structure Binary64 where
  negative : Bool
  significand : Nat
  exponent : Int
  deriving DecidableEq, Repr

namespace Binary64

/-! ## The format -/

/-- Significands have at most this many binary digits. -/
def precision : Nat := 53

/-- The exponent of the numbers nearest to zero. -/
def leastExponent : Int := -1074

def greatestExponent : Int := 971

def zero (negative : Bool) : Binary64 := ⟨negative, 0, leastExponent⟩

def isZero (number : Binary64) : Bool := number.significand == 0

def negate (number : Binary64) : Binary64 := { number with negative := !number.negative }

/-- The absolute value as a quotient of natural numbers. -/
def quotient (number : Binary64) : Nat × Nat :=
  if number.exponent < 0 then (number.significand, Nat.pow 2 number.exponent.natAbs)
  else (number.significand * Nat.pow 2 number.exponent.natAbs, 1)

/-! ## Rounding -/

/-- The natural number nearest to a quotient; a tie goes to the even one. -/
def nearest (numerator denominator : Nat) : Nat :=
  let whole := numerator / denominator
  let rest := numerator % denominator
  if denominator < 2 * rest ∨ (denominator = 2 * rest ∧ whole % 2 = 1) then whole + 1 else whole

example : nearest 5 2 = 2 ∧ nearest 7 2 = 4 ∧ nearest 8 3 = 3 := by decide

/-- `numerator / denominator` divided by `2 ^ exponent`. -/
def scaled (numerator denominator : Nat) (exponent : Int) : Nat × Nat :=
  if exponent < 0 then (numerator * Nat.pow 2 exponent.natAbs, denominator)
  else (numerator, denominator * Nat.pow 2 exponent.natAbs)

/-- The exponent at which a quotient has its significand in the format. -/
def exponentOf (numerator denominator : Nat) : Int :=
  let estimate : Int := (numerator.log2 : Int) - denominator.log2 - precision
  let (upper, lower) := scaled numerator denominator estimate
  let fitting := if upper / lower < Nat.pow 2 precision then estimate else estimate + 1
  max fitting leastExponent

/-- The number of the format nearest to a quotient, or nothing when the quotient is too large. -/
def round (negative : Bool) (numerator denominator : Nat) : Option Binary64 :=
  if numerator = 0 then some (zero negative)
  else
    let exponent := exponentOf numerator denominator
    let (upper, lower) := scaled numerator denominator exponent
    let significand := nearest upper lower
    let (significand, exponent) :=
      if significand = Nat.pow 2 precision then (Nat.pow 2 (precision - 1), exponent + 1)
      else (significand, exponent)
    if greatestExponent < exponent then none else some ⟨negative, significand, exponent⟩

/-! ## Operations -/

def multiply (left right : Binary64) : Option Binary64 :=
  let (leftUpper, leftLower) := left.quotient
  let (rightUpper, rightLower) := right.quotient
  round (left.negative != right.negative) (leftUpper * rightUpper) (leftLower * rightLower)

/-- Division by a number other than zero. -/
def divide (left right : Binary64) : Option Binary64 :=
  let (leftUpper, leftLower) := left.quotient
  let (rightUpper, rightLower) := right.quotient
  round (left.negative != right.negative) (leftUpper * rightLower) (leftLower * rightUpper)

def ofNat (value : Nat) : Option Binary64 := round false value 1

/-- The number nearest to `digits · 10 ^ exponent`. Exponents that put every significant digit
beyond the range of the format are decided without computing the power. -/
def ofDecimal (negative : Bool) (digits : Nat) (exponent : Int) : Option Binary64 :=
  if digits = 0 then some (zero negative)
  else
    let magnitude : Int := exponent + (Nat.log2 digits / 3 + 1 : Nat)
    if magnitude < -400 then some (zero negative)
    else if 400 < exponent then none
    else if exponent < 0 then round negative digits (Nat.pow 10 exponent.natAbs)
    else round negative (digits * Nat.pow 10 exponent.natAbs) 1

example : ofDecimal false 1 (-1) = some ⟨false, 7205759403792794, -56⟩ := by decide +kernel
example : ofDecimal false 5 (-324) = some ⟨false, 1, -1074⟩ := by decide +kernel
example : ofDecimal true 1 309 = none := by decide +kernel

end Binary64

end ApiGraph.Decimal
