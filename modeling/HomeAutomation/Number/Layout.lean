/-
  HomeAutomation.Number.Layout

  Written forms of doubles. A layout says from which power of ten on a number is written with an
  exponent and where a zero is kept as decimal place; the digits come from
  `HomeAutomation.Number.Decimal`.
-/
import HomeAutomation.Number.Decimal

namespace HomeAutomation

/-- The choices of a written form. -/
structure Layout where
  /-- Numbers whose first digit stands at this power of ten or above carry an exponent. -/
  exponentFrom : Int
  /-- Whether a whole number written without exponent ends in `.0`. -/
  keepsPlace : Bool
  /-- Whether a single digit before an exponent is followed by `.0`. -/
  keepsExponentPlace : Bool := false

namespace Layout

/-- Below this power of ten of the first digit a number carries an exponent. -/
def positionalFrom : Int := -4

/-- The exponent of a written form: sign and at least two digits. -/
def exponentText (order : Int) : List Char :=
  let digits := Nat.toDigits 10 order.natAbs
  let padded := if digits.length < 2 then '0' :: digits else digits
  'e' :: (if order < 0 then '-' else '+') :: padded

/-- The written form of a decimal without zeros at the end of its coefficient. -/
def write (layout : Layout) (d : Decimal) : List Char :=
  let digits := Nat.toDigits 10 d.coefficient
  let order := d.order
  if positionalFrom ≤ order && order < layout.exponentFrom then
    if 0 ≤ order then
      let places := order.toNat + 1
      let whole := digits.take places ++ List.replicate (places - digits.length) '0'
      match digits.drop places with
      | [] => if layout.keepsPlace then whole ++ ['.', '0'] else whole
      | fraction => whole ++ '.' :: fraction
    else '0' :: '.' :: List.replicate (-order - 1).toNat '0' ++ digits
  else
    match digits with
    | [] => []
    | [digit] =>
      if layout.keepsExponentPlace then digit :: '.' :: '0' :: exponentText order
      else digit :: exponentText order
    | digit :: rest => digit :: '.' :: rest ++ exponentText order

end Layout

namespace Double

/-- The form with the fewest digits that read back: positional below `1e16`, always with a decimal
    place or an exponent. -/
def shortestLayout : Layout := { exponentFrom := 16, keepsPlace := true }

/-- The form for messages and descriptions: six significant digits at most, positional below
    a million, no decimal place that is zero. -/
def briefLayout : Layout := { exponentFrom := 6, keepsPlace := false }

/-- How many significant digits the brief form has at most. -/
def briefDigits : Nat := 6

/-- Writes a sign in front of a text if the number is negative. -/
def signed (negative : Bool) (text : List Char) : String :=
  String.ofList (if negative then '-' :: text else text)

/-- The text of a number in its shortest form, or in words. -/
def repr : Double → String
  | nan => "nan"
  | infinite negative => signed negative ['i', 'n', 'f']
  | finite negative rank =>
    signed negative (shortestLayout.write ((shortest rank.val).stripZeros 400))

/-- The text of a number in its brief form, or in words. -/
def brief : Double → String
  | nan => "nan"
  | infinite negative => signed negative ['i', 'n', 'f']
  | finite negative rank =>
    let digits : Decimal :=
      if rank.val = 0 then ⟨0, 0⟩
      else (roundDigits briefDigits rank.val).stripZeros 400
    signed negative (briefLayout.write digits)

end Double

end HomeAutomation
