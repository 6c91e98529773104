/-
  HomeAutomation.Storage.NumberText

  The text of a number in a column of texts: fifteen significant digits at most, positional below
  `1e15`, always with a decimal place. The digits are cut off one by one from the number brought
  between one and ten, with half a unit of the last one added; all of this is arithmetic with a
  mantissa of 64 bits, whose rounding may show in the last digit.
-/
import HomeAutomation.Number.Extended
import HomeAutomation.Number.Layout

namespace HomeAutomation.ColumnNumber

/-- How many significant digits there are. -/
def digitCount : Nat := 15

/-- A number on its way between one and ten, and the power of ten that it has lost. -/
structure Scaled where
  number : Extended
  order : Int
  deriving Repr

/-! ## Scaling -/

/-- Multiplies a divisor by a factor as long as a number is not less than the product. The factor
    is `10 ^ step`; the result tells the power of ten as well. -/
def grow (fuel : Nat) (number factor : Extended) (step : Int) (divisor : Scaled) : Scaled :=
  match fuel with
  | 0 => divisor
  | fuel + 1 =>
    if number.lt (factor.mul divisor.number) then divisor
    else grow fuel number factor step
      ⟨divisor.number.mul factor, divisor.order + step⟩

/-- Multiplies a number by a factor as long as it is below a limit. The factor is `10 ^ step`. -/
def lift (fuel : Nat) (limit factor : Extended) (step : Int) (scaled : Scaled) : Scaled :=
  match fuel with
  | 0 => scaled
  | fuel + 1 =>
    if scaled.number.lt limit then
      lift fuel limit factor step ⟨scaled.number.mul factor, scaled.order - step⟩
    else scaled

/-- How often a number is divided or multiplied by one factor at most. -/
def scalingSteps : Nat := 50

/-- The double nearest to a power of ten. -/
def tenTo (power : Nat) : Extended := .ofDouble (Nat.pow 10 power) 1

/-- A magnitude that is not zero, brought between one and ten. -/
def scale (rank : Nat) : Scaled :=
  let number := Extended.ofRank rank
  let divisor := grow scalingSteps number (tenTo 100) 100 ⟨.ofNat 1, 0⟩
  let divisor := grow scalingSteps number (tenTo 10) 10 divisor
  let divisor := grow scalingSteps number (tenTo 1) 1 divisor
  let scaled : Scaled := ⟨number.div divisor.number, divisor.order⟩
  let scaled := lift scalingSteps (.ofDouble 1 (Nat.pow 10 8)) (tenTo 8) 8 scaled
  lift scalingSteps (.ofNat 1) (tenTo 1) 1 scaled

/-- Half a unit of the last digit, computed in doubles. -/
def halfUnit : Extended :=
  let product := (Extended.ofDouble 5 (Nat.pow 10 5)).mantissa
    * (Extended.ofDouble 1 (Nat.pow 10 10)).mantissa
  let power := (Extended.ofDouble 5 (Nat.pow 10 5)).exponent
    + (Extended.ofDouble 1 (Nat.pow 10 10)).exponent
  .ofDouble product (Nat.pow 2 (-power).toNat)

/-- Adds half a unit of the last digit. -/
def roundUp (scaled : Scaled) : Scaled :=
  let number := scaled.number.add halfUnit
  if number.lt (.ofNat 10) then ⟨number, scaled.order⟩
  else ⟨number.mul (.ofDouble 1 10), scaled.order + 1⟩

/-! ## Digits -/

/-- The integer that the first digits of a number below ten form. -/
def leadingDigits (count value : Nat) (number : Extended) : Nat :=
  match count with
  | 0 => value
  | count + 1 =>
    let digit := number.floor
    leadingDigits count (10 * value + digit) ((number.sub (.ofNat digit)).mul (.ofNat 10))

/-- The decimal that a magnitude which is not zero is written as. -/
def decimal (rank : Nat) : Decimal :=
  let scaled := roundUp (scale rank)
  ⟨leadingDigits digitCount 0 scaled.number, scaled.order - digitCount + 1⟩

/-- The form of the text. -/
def layout : Layout := { exponentFrom := 15, keepsPlace := true, keepsExponentPlace := true }

/-- The text of a number; what is no number has none. -/
def text? : Double → Option String
  | .nan => none
  | .infinite negative => some (Double.signed negative ['I', 'n', 'f'])
  | .finite negative rank =>
    if rank.val = 0 then some "0.0"
    else some (Double.signed negative (layout.write ((decimal rank.val).stripZeros digitCount)))

end HomeAutomation.ColumnNumber
