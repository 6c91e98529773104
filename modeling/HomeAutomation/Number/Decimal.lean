/-
  HomeAutomation.Number.Decimal

  Decimal forms of doubles: rounding to a number of significant digits, and the fewest digits that
  read back as the same double. All of it is exact arithmetic on natural numbers.
-/
import HomeAutomation.Number.Double

namespace HomeAutomation

/-- The decimal number `coefficient * 10 ^ exponent`. -/
structure Decimal where
  coefficient : Nat
  exponent : Int
  deriving DecidableEq, Repr

namespace Decimal

/-- The number as a fraction of natural numbers. -/
def fraction (d : Decimal) : Nat × Nat :=
  if 0 ≤ d.exponent then (d.coefficient * Nat.pow 10 d.exponent.toNat, 1)
  else (d.coefficient, Nat.pow 10 (-d.exponent).toNat)

/-- How many decimal digits a natural number has. -/
def digitCount (n : Nat) : Nat := (Nat.toDigits 10 n).length

/-- The power of ten of the first significant digit, for a coefficient that is not zero. -/
def order (d : Decimal) : Int := d.exponent + digitCount d.coefficient - 1

/-- Drops up to `limit` zeros at the end of the coefficient. -/
def stripZeros (limit : Nat) (d : Decimal) : Decimal :=
  match limit with
  | 0 => d
  | limit + 1 =>
    if d.coefficient % 10 = 0 && d.coefficient != 0 then
      stripZeros limit ⟨d.coefficient / 10, d.exponent + 1⟩
    else d

/-- An order that no finite double and no numeral of interest exceeds in either direction. -/
def orderLimit : Nat := 400

/-- The double nearest to the decimal. Exponents far out of range are settled by the order alone,
    so that no huge power of ten is formed. -/
def toDouble (negative : Bool) (d : Decimal) : Double :=
  if d.coefficient = 0 then .nearest negative 0 1
  else if d.order < -(orderLimit : Int) then .nearest negative 0 1
  else if (orderLimit : Int) < d.order then .infinite negative
  else .nearest negative d.fraction.1 d.fraction.2

end Decimal

namespace Double

/-- The power of ten of the first significant digit of a magnitude that is not zero. -/
def decimalOrder (rank : Nat) : Int :=
  (Decimal.digitCount (units rank * Nat.pow 10 Decimal.orderLimit / unitsPerOne) : Int) - 1
    - Decimal.orderLimit

/-- A magnitude times a power of ten, as a fraction. -/
def scaledUnits (rank : Nat) (power : Int) : Nat × Nat :=
  if 0 ≤ power then (units rank * Nat.pow 10 power.toNat, unitsPerOne)
  else (units rank, unitsPerOne * Nat.pow 10 (-power).toNat)

/-- The decimal with `count` significant digits that is nearest to a magnitude. -/
def roundDigits (count rank : Nat) : Decimal :=
  let exponent := decimalOrder rank - count + 1
  let scaled := scaledUnits rank (-exponent)
  ⟨Number.roundDiv scaled.1 scaled.2, exponent⟩

/-- The magnitude itself as a decimal: it has as many places as its unit has. -/
def exactDecimal (rank : Nat) : Decimal := ⟨units rank * Nat.pow 5 1074, -1074⟩

/-- Of the two decimals of `count` digits next to a magnitude the one that reads back as it, the
    nearer one if both do. -/
def readableDigits? (count rank : Nat) : Option Decimal :=
  let exponent := decimalOrder rank - count + 1
  let scaled := scaledUnits rank (-exponent)
  let below := scaled.1 / scaled.2
  let nearer := Number.roundDiv scaled.1 scaled.2
  let farther := if nearer = below then below + 1 else below
  let reads (coefficient : Nat) : Bool :=
    let fraction := (Decimal.mk coefficient exponent).fraction
    nearestRank fraction.1 fraction.2 == rank
  if reads nearer then some ⟨nearer, exponent⟩
  else if reads farther then some ⟨farther, exponent⟩
  else none

/-- The decimal with the fewest digits that reads back as the magnitude. -/
def shortest (rank : Nat) : Decimal :=
  if rank = 0 then ⟨0, 0⟩
  else
    ((List.range 17).findSome? fun below => readableDigits? (below + 1) rank).getD
      (exactDecimal rank)

end Double

end HomeAutomation
