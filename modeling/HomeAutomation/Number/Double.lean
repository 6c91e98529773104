/-
  HomeAutomation.Number.Double

  Double-precision numbers, the type of thresholds, readings and set points. They are never added
  or multiplied here, only read, compared and written, so a finite number is kept as a sign and
  the rank of its magnitude: the magnitudes of the finite doubles in ascending order are numbered
  from zero. Comparison is then comparison of integers, and the exact value of a rank is a
  multiple of the smallest positive double.
-/
import HomeAutomation.Number.Rounding

namespace HomeAutomation

/-- How many magnitudes the finite doubles have. The rank with this number is infinity. -/
def finiteRanks : Nat := 0x7FF0000000000000

/-- A double-precision number. -/
inductive Double
  | nan
  | infinite (negative : Bool)
  | finite (negative : Bool) (rank : Fin finiteRanks)
  deriving DecidableEq, Repr

namespace Double

/-! ## Magnitudes -/

/-- How many bits a mantissa has after its leading bit. -/
def fractionBits : Nat := 52

/-- One magnitude in units of the smallest positive double: the mantissa times the power of two of
    its binade. The lowest two binades have the same spacing. -/
def units (rank : Nat) : Nat :=
  let step := Nat.pow 2 fractionBits
  if rank < step then rank
  else (step + rank % step) * Nat.pow 2 (rank / step - 1)

/-- How many units make one. -/
def unitsPerOne : Nat := Nat.pow 2 1074

/-- The rank of the magnitude nearest to `num / den`, a tie going to the even rank. Every rank from
    `finiteRanks` on stands for an overflow. -/
def nearestRank (num den : Nat) : Nat :=
  let scaled := num * unitsPerOne
  let shift := (scaled / den).log2 - fractionBits
  shift * Nat.pow 2 fractionBits + Number.roundDiv scaled (den * Nat.pow 2 shift)

/-- The number with a sign and a rank, infinite where the rank overflows. -/
def ofRank (negative : Bool) (rank : Nat) : Double :=
  if h : rank < finiteRanks then finite negative ⟨rank, h⟩ else infinite negative

/-- The double nearest to `num / den` with a sign. -/
def nearest (negative : Bool) (num den : Nat) : Double := ofRank negative (nearestRank num den)

/-- The double nearest to an integer, if one is in range. -/
def ofInt? (n : Int) : Option Double :=
  match nearest (decide (n < 0)) n.natAbs 1 with
  | finite negative rank => some (finite negative rank)
  | _ => none

/-- The double nearest to a natural number. -/
def ofNat (n : Nat) : Double := nearest false n 1

instance (n : Nat) : OfNat Double n := ⟨ofNat n⟩

/-! ## Order -/

/-- The place of a number among all numbers, the two zeros sharing one. What is not a number has
    no place. -/
def place? : Double → Option Int
  | nan => none
  | infinite negative => some (if negative then -finiteRanks else finiteRanks)
  | finite negative rank => some (if negative then -rank.val else rank.val)

/-- Whether two places exist and stand in a relation. -/
def compareBy (rel : Int → Int → Bool) (a b : Double) : Bool :=
  match a.place?, b.place? with
  | some p, some q => rel p q
  | _, _ => false

/-- Numeric equality: the zeros are equal, and what is not a number equals nothing. -/
def eq (a b : Double) : Bool := compareBy (fun p q => p == q) a b

/-- Numeric less-than. -/
def lt (a b : Double) : Bool := compareBy (fun p q => decide (p < q)) a b

/-- Numeric less-or-equal. -/
def le (a b : Double) : Bool := compareBy (fun p q => decide (p ≤ q)) a b

/-- Whether the number is finite. -/
def isFinite : Double → Bool
  | finite _ _ => true
  | _ => false

/-- Whether the number is one of the two zeros. -/
def isZero : Double → Bool
  | finite _ rank => rank.val == 0
  | _ => false

/-! ## Integers -/

/-- The integer part of a finite number, rounded toward zero. -/
def truncate? : Double → Option Int
  | finite negative rank =>
    let whole := units rank.val / unitsPerOne
    some (if negative then -(whole : Int) else whole)
  | _ => none

/-- The integer that the number is, if it is one. -/
def toInt? (d : Double) : Option Int :=
  match d with
  | finite _ rank => if units rank.val % unitsPerOne = 0 then d.truncate? else none
  | _ => none

end Double

end HomeAutomation
