/-
  HomeAutomation.Number.Extended

  Numbers with a mantissa of 64 bits. Sums, products and quotients are the exact ones rounded to the
  nearest such number, a tie to the even mantissa. No number is negative here, and the exponent has
  no bounds.
-/
import HomeAutomation.Number.Double

namespace HomeAutomation

/-- The number `mantissa * 2 ^ exponent`. -/
structure Extended where
  mantissa : Nat
  exponent : Int
  deriving Repr, Inhabited

namespace Extended

/-- How many bits a mantissa has. -/
def mantissaBits : Nat := 64

/-- A natural number times a power of two, or divided by one. -/
def shift (n : Nat) (power : Int) : Nat :=
  if 0 ≤ power then n * Nat.pow 2 power.toNat else n / Nat.pow 2 (-power).toNat

/-- The quotient of two natural numbers, the first times a power of two, to the nearest integer. -/
def roundShifted (num den : Nat) (power : Int) : Nat :=
  if 0 ≤ power then Number.roundDiv (num * Nat.pow 2 power.toNat) den
  else Number.roundDiv num (den * Nat.pow 2 (-power).toNat)

/-- The number nearest to `num / den * 2 ^ exponent`. -/
def nearest (num den : Nat) (exponent : Int) : Extended :=
  if num = 0 then ⟨0, 0⟩
  else
    let power : Int := mantissaBits + den.log2 - num.log2
    let power := if shift num power / den < Nat.pow 2 mantissaBits then power else power - 1
    ⟨roundShifted num den power, exponent - power⟩

/-- The magnitude of a double, given by its rank. -/
def ofRank (rank : Nat) : Extended := nearest (Double.units rank) 1 (-1074)

/-- The double nearest to a fraction. -/
def ofDouble (num den : Nat) : Extended := ofRank (Double.nearestRank num den)

/-- Two mantissas with a common exponent, and this exponent. -/
def align (a b : Extended) : Nat × Nat × Int :=
  let exponent := min a.exponent b.exponent
  (shift a.mantissa (a.exponent - exponent), shift b.mantissa (b.exponent - exponent), exponent)

/-- The sum. -/
def add (a b : Extended) : Extended :=
  let (m, n, exponent) := align a b
  nearest (m + n) 1 exponent

/-- The difference, for a number that is not less than the other. -/
def sub (a b : Extended) : Extended :=
  let (m, n, exponent) := align a b
  nearest (m - n) 1 exponent

/-- The product. -/
def mul (a b : Extended) : Extended :=
  nearest (a.mantissa * b.mantissa) 1 (a.exponent + b.exponent)

/-- The quotient. -/
def div (a b : Extended) : Extended := nearest a.mantissa b.mantissa (a.exponent - b.exponent)

/-- Whether a number is less than another. -/
def lt (a b : Extended) : Bool :=
  let (m, n, _) := align a b
  decide (m < n)

/-- The integer part. -/
def floor (a : Extended) : Nat := shift a.mantissa a.exponent

/-- A natural number below `2 ^ 64`. -/
def ofNat (n : Nat) : Extended := ⟨n, 0⟩

end Extended

end HomeAutomation
