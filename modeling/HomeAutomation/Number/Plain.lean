/-
  HomeAutomation.Number.Plain

  Numerals in settings and requests. They have ASCII digits only. Blanks may surround them, or else
  underscores may stand inside, no two in a row. An integer may have decimal places that are zero
  and zeros in front, even in front of its sign.
-/
import HomeAutomation.Number.Numeral

namespace HomeAutomation.Number

/-- Removes underscores, if none stands at an end or beside another. -/
def withoutUnderscores? (cs : List Char) : Option (List Char) :=
  let apart := !(List.zip cs (cs.drop 1)).contains ('_', '_')
  if cs.head? == some '_' || cs.getLast? == some '_' || !apart then none
  else some (cs.filter (· != '_'))

/-- The double that the characters of a plain numeral or a number word denote. -/
def plainDouble? (cs : List Char) : Option Double :=
  let (negative, magnitude) := splitSign cs
  readMagnitude? negative magnitude

/-- The double that a text denotes. -/
def readPlainDouble? (text : String) : Option Double :=
  let cs := text.toList
  match plainDouble? (Text.trimBy isMargin cs) with
  | some d => some d
  | none => if cs.contains '_' then (withoutUnderscores? cs).bind plainDouble? else none

/-! ## Integers -/

/-- Drops decimal places that are zero, if there are any. -/
def dropZeroPlaces (cs : List Char) : List Char :=
  match cs.dropWhile (· != '.') with
  | _ :: '0' :: places => if places.all (· == '0') then cs.takeWhile (· != '.') else cs
  | _ => cs

/-- Whether a character may come after the zeros in front of an integer. -/
def startsInteger (c : Char) : Bool := ('1' ≤ c && c ≤ '9') || c = '-'

/-- Drops the zeros in front of an integer, underscores between them included. A zero is kept if
    nothing else is there or a point follows. -/
def dropLeadingZeros? (cs : List Char) : Option (List Char) :=
  let isFiller (c : Char) : Bool := c = '0' || c = '_'
  match cs with
  | '0' :: _ =>
    let last := ((cs.takeWhile isFiller).getLast?).toList
    match cs.dropWhile isFiller with
    | [] => some last
    | '.' :: places => some (last ++ '.' :: places)
    | c :: rest => if startsInteger c then some (c :: rest) else none
  | c :: rest => if startsInteger c then some (c :: rest) else none
  | [] => none

/-- The natural number that digits denote. -/
def plainNatural? (digits : List Char) : Option Nat :=
  if digits.isEmpty || !digits.all isDigit || integerDigitLimit < digits.length then none
  else some (digitsValue digits)

/-- The integer that a text denotes. -/
def readPlainInteger? (text : String) : Option Int := do
  let unsigned ←
    match Text.trimBy isMargin text.toList with
    | '+' :: '-' :: _ => none
    | '+' :: rest => some rest
    | cs => some cs
  match ← withoutUnderscores? (dropZeroPlaces (← dropLeadingZeros? unsigned)) with
  | '-' :: digits => (plainNatural? digits).map fun n => -(n : Int)
  | digits => (plainNatural? digits).map (↑·)

end HomeAutomation.Number
