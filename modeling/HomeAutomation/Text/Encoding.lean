/-
  HomeAutomation.Text.Encoding

  Encodings of texts as bytes. A text that starts with ASCII characters shows its encoding by where
  its first bytes are zero. In UTF-16 and UTF-32 a half of a surrogate pair that stands alone reads
  as the replacement character.
-/
namespace HomeAutomation.Text

/-! ## UTF-16 units -/

/-- Whether a UTF-16 unit is the first of a pair. -/
def isHighUnit (unit : Nat) : Bool := 0xD800 ≤ unit && unit < 0xDC00

/-- Whether a UTF-16 unit is the second of a pair. -/
def isLowUnit (unit : Nat) : Bool := 0xDC00 ≤ unit && unit < 0xE000

/-- The character of a UTF-16 unit that stands alone; half of a pair gives the replacement
    character. -/
def unitChar (unit : Nat) : Char :=
  if 0xD800 ≤ unit && unit < 0xE000 then '\uFFFD' else Char.ofNat unit

/-- The character that two UTF-16 units form. -/
def pairChar (high low : Nat) : Char :=
  Char.ofNat (0x10000 + (high - 0xD800) * 0x400 + (low - 0xDC00))

/-- The characters of UTF-16 units. -/
def unitsChars : List Nat → List Char
  | [] => []
  | [unit] => [unitChar unit]
  | high :: low :: rest =>
    if isHighUnit high && isLowUnit low then pairChar high low :: unitsChars rest
    else unitChar high :: unitsChars (low :: rest)

/-! ## Encodings -/

/-- How bytes stand for characters. The wide encodings are told apart by the end from which their
    numbers are written. -/
inductive Encoding
  | utf8
  | utf16 (bigEndian : Bool)
  | utf32 (bigEndian : Bool)
  deriving DecidableEq, Repr

namespace Encoding

/-- The encoding of a text that starts with ASCII characters. -/
def ofZeros : List UInt8 → Encoding
  | [a, b] => if a = 0 then utf16 true else if b = 0 then utf16 false else utf8
  | a :: b :: c :: d :: _ =>
    if a = 0 then if b = 0 then utf32 true else utf16 true
    else if b = 0 then if c = 0 && d = 0 then utf32 false else utf16 false
    else utf8
  | _ => utf8

/-- The number that bytes write, the most significant first. -/
def number (bytes : List UInt8) : Nat := bytes.foldl (fun n b => 256 * n + b.toNat) 0

/-- The number that bytes write from one end or the other. -/
def numberFrom (bigEndian : Bool) (bytes : List UInt8) : Nat :=
  number (if bigEndian then bytes else bytes.reverse)

/-- The units of two bytes each; `none` if a byte is left over. -/
def units16? (bigEndian : Bool) : List UInt8 → Option (List Nat)
  | [] => some []
  | a :: b :: rest => (units16? bigEndian rest).map (numberFrom bigEndian [a, b] :: ·)
  | _ => none

/-- The units of four bytes each; `none` if bytes are left over or a unit is no character. -/
def units32? (bigEndian : Bool) : List UInt8 → Option (List Nat)
  | [] => some []
  | a :: b :: c :: d :: rest =>
    let unit := numberFrom bigEndian [a, b, c, d]
    if unit < 0x110000 then (units32? bigEndian rest).map (unit :: ·) else none
  | _ => none

/-- The text that the bytes of another text stand for in an encoding. -/
def reread? (encoding : Encoding) (text : String) : Option String :=
  let bytes := text.toUTF8.data.toList
  match encoding with
  | utf8 => some text
  | utf16 bigEndian => (units16? bigEndian bytes).map fun units => String.ofList (unitsChars units)
  | utf32 bigEndian =>
    (units32? bigEndian bytes).map fun units => String.ofList (units.map unitChar)

end Encoding

end HomeAutomation.Text
