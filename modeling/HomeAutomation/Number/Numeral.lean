/-
  HomeAutomation.Number.Numeral

  Reading of numerals. A numeral may stand between blanks, its digits may belong to any script, and
  underscores may separate them. A double is written with an optional sign, digits, a point and
  an exponent, or in words; an integer with an optional sign and digits.
-/
import HomeAutomation.Number.Decimal
import HomeAutomation.Text.Blank
import HomeAutomation.Text.Digit

namespace HomeAutomation.Number

/-- The blanks that may surround a numeral: all but the information separators. -/
def isMargin (c : Char) : Bool :=
  Text.isBlank c && !(0x1C ≤ c.toNat && c.toNat ≤ 0x1F)

/-- Whether a character is an ASCII digit. -/
def isDigit (c : Char) : Bool := '0' ≤ c && c ≤ '9'

/-- The number that ASCII digits write, most significant first. -/
def digitsValue (digits : List Char) : Nat :=
  digits.foldl (fun value c => 10 * value + (c.toNat - 48)) 0

/-- Removes the underscores of a numeral, each of which has to stand between two digits.
    `afterDigit` tells whether the character before was a digit. -/
def dropUnderscores? (afterDigit : Bool) : List Char → Option (List Char)
  | [] => some []
  | '_' :: rest =>
    match rest with
    | [] => none
    | d :: _ => if afterDigit && isDigit d then dropUnderscores? false rest else none
  | c :: rest => (dropUnderscores? (isDigit c) rest).map (c :: ·)

/-- The characters of a numeral without margins and underscores and with ASCII digits. -/
def numeralChars? (text : String) : Option (List Char) :=
  dropUnderscores? false (Text.asciiDigits (Text.trimBy isMargin text.toList))

/-- Splits off a sign; `true` is negative. -/
def splitSign : List Char → Bool × List Char
  | '-' :: rest => (true, rest)
  | '+' :: rest => (false, rest)
  | cs => (false, cs)

/-- The exponent part of a numeral, which has to be all that is left. -/
def readExponent? : List Char → Option Int
  | [] => some 0
  | c :: rest =>
    if c = 'e' || c = 'E' then
      let (negative, digits) := splitSign rest
      if digits.isEmpty || !digits.all isDigit then none
      else
        let value : Int := digitsValue digits
        some (if negative then -value else value)
    else none

/-- An unsigned decimal numeral with a digit before or after its point. -/
def readDecimal? (cs : List Char) : Option Decimal :=
  let whole := cs.takeWhile isDigit
  let afterWhole := cs.dropWhile isDigit
  let (fraction, tail) :=
    match afterWhole with
    | '.' :: rest => (rest.takeWhile isDigit, rest.dropWhile isDigit)
    | _ => ([], afterWhole)
  if whole.isEmpty && fraction.isEmpty then none
  else
    (readExponent? tail).map fun exponent =>
      ⟨digitsValue (whole ++ fraction), exponent - fraction.length⟩

/-- The double that an unsigned numeral or number word denotes. -/
def readMagnitude? (negative : Bool) (cs : List Char) : Option Double :=
  let word := cs.map Char.toLower
  if word = ['i', 'n', 'f'] || word = ['i', 'n', 'f', 'i', 'n', 'i', 't', 'y'] then
    some (.infinite negative)
  else if word = ['n', 'a', 'n'] then some .nan
  else (readDecimal? cs).map (·.toDouble negative)

/-- The double that a text denotes. -/
def readDouble? (text : String) : Option Double := do
  let cs ← numeralChars? text
  let (negative, magnitude) := splitSign cs
  readMagnitude? negative magnitude

/-- How many digits an integer numeral may have. -/
def integerDigitLimit : Nat := 4300

/-- The integer that a text denotes. -/
def readInteger? (text : String) : Option Int := do
  let cs ← numeralChars? text
  let (negative, digits) := splitSign cs
  if digits.isEmpty || !digits.all isDigit || integerDigitLimit < digits.length then none
  else
    let value : Int := digitsValue digits
    some (if negative then -value else value)

end HomeAutomation.Number
