import ApiGraph.Json

namespace ApiGraph.Json

open Decimal (Binary64)

/-! Numbers in JSON text. Integers that fit into 64 bits stay integers. Everything else becomes a
floating-point number: its leading digits, as many as fit into 64 bits, are rounded once, and the
power of ten is applied to the rounded number. -/

/-- A number as it is written: digits from the most significant on. -/
structure Numeral where
  negative : Bool
  whole : List Nat
  fraction : Option (List Nat)
  /-- Whether the exponent is negative, and its digits. -/
  exponent : Option (Bool × List Nat)

namespace Numeral

/-- Append digits to a number while it stays within `limit`; the digits that are left come
second. -/
def accumulate (limit : Nat) (value : Nat) : List Nat → Nat × List Nat
  | [] => (value, [])
  | digit :: rest =>
      if value * 10 + digit ≤ limit then accumulate limit (value * 10 + digit) rest
      else (value, digit :: rest)

def wordLimit : Nat := Nat.pow 2 64 - 1

def powerOfTen (exponent : Nat) : Binary64 :=
  (Binary64.ofNat (Nat.pow 10 exponent)).getD (.zero false)

/-- The powers of ten that the format holds end here. -/
def greatestPower : Nat := 308

/-- A rounded number of at most 64 bits times a power of ten. A negative power beyond the format is
applied in two steps; beyond two steps nothing is left. -/
def scale (value : Binary64) (exponent : Int) : Option Binary64 :=
  if exponent.natAbs ≤ greatestPower then
    if 0 ≤ exponent then value.multiply (powerOfTen exponent.natAbs)
    else value.divide (powerOfTen exponent.natAbs)
  else if value.isZero then some value
  else if 0 ≤ exponent then none
  else if exponent.natAbs ≤ 2 * greatestPower then
    (value.divide (powerOfTen greatestPower)).bind
      (·.divide (powerOfTen (exponent.natAbs - greatestPower)))
  else some (.zero false)

def exponentLimit : Nat := Nat.pow 2 31 - 1

def real (numeral : Numeral) : Option Binary64 :=
  let (leading, dropped) := accumulate wordLimit 0 numeral.whole
  let fraction := numeral.fraction.getD []
  let (significand, ignored) := accumulate wordLimit leading fraction
  let shift : Int := dropped.length - (fraction.length - ignored.length : Nat)
  let signed (value : Binary64) : Binary64 := if numeral.negative then value.negate else value
  let scaled (exponent : Int) : Option Binary64 :=
    match Binary64.ofNat significand with
    | some value => (scale value exponent).map signed
    | none => none
  match numeral.exponent with
  | none => scaled shift
  | some (below, digits) =>
      let (exponent, excess) := accumulate exponentLimit 0 digits
      if excess.isEmpty then scaled (if below then shift - exponent else shift + exponent)
      else if significand != 0 && !below then none
      else some (signed (.zero false))

/-- The value of a numeral, unless it is out of range. -/
def value? (numeral : Numeral) : Option Number :=
  match numeral.fraction, numeral.exponent, accumulate wordLimit 0 numeral.whole with
  | none, none, (magnitude, []) =>
      if !numeral.negative then some (.integer magnitude)
      else if magnitude = 0 ∨ Nat.pow 2 63 < magnitude then numeral.real.map .real
      else some (.integer (-magnitude))
  | _, _, _ => numeral.real.map .real

end Numeral

end ApiGraph.Json
