/-
  HomeAutomation.Json.Reader

  Reading of JSON texts. Besides JSON proper the words `NaN`, `Infinity` and `-Infinity` are
  numbers. A key that an object repeats keeps its first place and its last value. Values may stand
  within each other only so deep. A failure tells its cause and the offset of the character at which
  reading stopped.
-/
import HomeAutomation.Json.Value
import HomeAutomation.Text.Encoding

namespace HomeAutomation.Json

/-- What is wrong with a JSON text. -/
inductive Fault
  | valueExpected
  | keyExpected
  | colonExpected
  | commaExpected
  | textUnterminated
  | controlCharacter
  | badEscape
  | badUnicodeEscape
  | trailingText
  | integerTooLong
  /-- Too many values stand within each other. -/
  | tooDeep
  /-- The bytes of the text are no characters. -/
  | undecodable
  deriving DecidableEq, Repr

/-- A failure of reading. -/
structure ReadError where
  fault : Fault
  offset : Nat
  deriving DecidableEq, Repr

/-- A failure inside the text: the fault and the text from where it was found. -/
abbrev Failure := Fault × List Char

/-! ## Tokens -/

/-- Whether a character may stand between tokens. -/
def isSpace (c : Char) : Bool := c = ' ' || c = '\t' || c = '\n' || c = '\r'

/-- Drops the spaces in front of a token. -/
def skipSpace (cs : List Char) : List Char := cs.dropWhile isSpace

/-- The value of a hexadecimal digit. -/
def hexValue? (c : Char) : Option Nat :=
  if '0' ≤ c && c ≤ '9' then some (c.toNat - 48)
  else if 'a' ≤ c && c ≤ 'f' then some (c.toNat - 87)
  else if 'A' ≤ c && c ≤ 'F' then some (c.toNat - 55)
  else none

/-- The value of four hexadecimal digits. -/
def hexUnit? (a b c d : Char) : Option Nat := do
  return (((← hexValue? a) * 16 + (← hexValue? b)) * 16 + (← hexValue? c)) * 16 + (← hexValue? d)

/-- The character that a letter after a backslash stands for. -/
def escapedChar? (c : Char) : Option Char :=
  match c with
  | '"' => some '"'
  | '\\' => some '\\'
  | '/' => some '/'
  | 'b' => some '\u0008'
  | 'f' => some '\u000C'
  | 'n' => some '\n'
  | 'r' => some '\r'
  | 't' => some '\t'
  | _ => none

/-- Reads the rest of a text whose opening mark stands first in `opening`; `done` is what has been
    read, reversed. -/
def readText (opening done : List Char) : List Char → Except Failure (String × List Char)
  | [] => .error (.textUnterminated, opening)
  | '"' :: rest => .ok (String.ofList done.reverse, rest)
  | ['\\'] => .error (.textUnterminated, opening)
  | '\\' :: 'u' :: a :: b :: c :: d :: '\\' :: 'u' :: e :: f :: g :: h :: i :: rest =>
    match hexUnit? a b c d with
    | none => .error (.badUnicodeEscape, 'u' :: a :: b :: c :: d :: '\\' :: 'u' :: e :: f :: g :: h
        :: i :: rest)
    | some high =>
      if Text.isHighUnit high then
        match hexUnit? e f g h with
        | none => .error (.badUnicodeEscape, 'u' :: e :: f :: g :: h :: i :: rest)
        | some low =>
          if Text.isLowUnit low then
            readText opening (Text.pairChar high low :: done) (i :: rest)
          else
            readText opening (Text.unitChar high :: done)
              ('\\' :: 'u' :: e :: f :: g :: h :: i :: rest)
      else
        readText opening (Text.unitChar high :: done) ('\\' :: 'u' :: e :: f :: g :: h :: i :: rest)
  | '\\' :: 'u' :: a :: b :: c :: d :: e :: rest =>
    match hexUnit? a b c d with
    | none => .error (.badUnicodeEscape, 'u' :: a :: b :: c :: d :: e :: rest)
    | some unit => readText opening (Text.unitChar unit :: done) (e :: rest)
  | '\\' :: 'u' :: rest => .error (.badUnicodeEscape, 'u' :: rest)
  | '\\' :: c :: rest =>
    match escapedChar? c with
    | some plain => readText opening (plain :: done) rest
    | none => .error (.badEscape, '\\' :: c :: rest)
  | c :: rest =>
    if c.toNat < 0x20 then .error (.controlCharacter, c :: rest)
    else readText opening (c :: done) rest

/-- Splits off an unsigned integer numeral: a zero alone or digits that do not start with one. -/
def splitWhole (cs : List Char) : List Char × List Char :=
  match cs with
  | '0' :: rest => (['0'], rest)
  | _ => (cs.takeWhile Number.isDigit, cs.dropWhile Number.isDigit)

/-- Splits off a point with the digits after it; without digits there is nothing to split. -/
def splitFraction (cs : List Char) : List Char × List Char :=
  match cs with
  | '.' :: rest =>
    match rest.takeWhile Number.isDigit with
    | [] => ([], cs)
    | digits => (digits, rest.dropWhile Number.isDigit)
  | _ => ([], cs)

/-- Splits off an exponent; without digits there is nothing to split. -/
def splitExponent (cs : List Char) : Option Int × List Char :=
  match cs with
  | c :: rest =>
    if c = 'e' || c = 'E' then
      let (negative, afterSign) := Number.splitSign rest
      match afterSign.takeWhile Number.isDigit with
      | [] => (none, cs)
      | digits =>
        let value : Int := Number.digitsValue digits
        (some (if negative then -value else value), afterSign.dropWhile Number.isDigit)
    else (none, cs)
  | [] => (none, cs)

/-- Reads a number. -/
def readNumber (cs : List Char) : Except Failure (Json × List Char) :=
  let (negative, unsigned) :=
    match cs with
    | '-' :: rest => (true, rest)
    | _ => (false, cs)
  let (whole, afterWhole) := splitWhole unsigned
  if whole.isEmpty then .error (.valueExpected, cs)
  else
    let (fraction, afterFraction) := splitFraction afterWhole
    let (exponent, rest) := splitExponent afterFraction
    if fraction.isEmpty && exponent.isNone then
      if Number.integerDigitLimit < whole.length then .error (.integerTooLong, cs)
      else
        let value : Int := Number.digitsValue whole
        .ok (integer (if negative then -value else value), rest)
    else
      let decimal : Decimal :=
        ⟨Number.digitsValue (whole ++ fraction), exponent.getD 0 - fraction.length⟩
      .ok (double (decimal.toDouble negative), rest)

/-- Reads a value that is a name or a number. -/
def readWord (cs : List Char) : Except Failure (Json × List Char) :=
  match cs with
  | 'n' :: 'u' :: 'l' :: 'l' :: rest => .ok (null, rest)
  | 't' :: 'r' :: 'u' :: 'e' :: rest => .ok (bool true, rest)
  | 'f' :: 'a' :: 'l' :: 's' :: 'e' :: rest => .ok (bool false, rest)
  | 'N' :: 'a' :: 'N' :: rest => .ok (double .nan, rest)
  | 'I' :: 'n' :: 'f' :: 'i' :: 'n' :: 'i' :: 't' :: 'y' :: rest =>
    .ok (double (.infinite false), rest)
  | '-' :: 'I' :: 'n' :: 'f' :: 'i' :: 'n' :: 'i' :: 't' :: 'y' :: rest =>
    .ok (double (.infinite true), rest)
  | _ => readNumber cs

/-! ## Values -/

/-- How many lists and objects may stand within each other. -/
def nestingLimit : Nat := 970

mutual

/-- Reads a value that starts at the first character; `depth` more lists and objects may stand
    within each other. Every call consumes a character or is followed by one that does, which
    bounds `fuel`. -/
def readValue (fuel depth : Nat) (cs : List Char) : Except Failure (Json × List Char) :=
  match fuel with
  | 0 => .error (.valueExpected, cs)
  | fuel + 1 =>
    match cs, depth with
    | '"' :: rest, _ => (readText cs [] rest).map fun (value, rest) => (text value, rest)
    | '[' :: _, 0 => .error (.tooDeep, cs)
    | '{' :: _, 0 => .error (.tooDeep, cs)
    | '[' :: rest, depth + 1 =>
      match skipSpace rest with
      | ']' :: rest => .ok (list [], rest)
      | rest => (readItems fuel depth rest).map fun (items, rest) => (list items, rest)
    | '{' :: rest, depth + 1 =>
      match skipSpace rest with
      | '}' :: rest => .ok (object [], rest)
      | rest => (readFields fuel depth [] rest).map fun (fields, rest) => (object fields, rest)
    | _, _ => readWord cs

/-- Reads the items of a list up to its end. -/
def readItems (fuel depth : Nat) (cs : List Char) : Except Failure (List Json × List Char) :=
  match fuel with
  | 0 => .error (.valueExpected, cs)
  | fuel + 1 => do
    let (item, rest) ← readValue fuel depth cs
    match skipSpace rest with
    | ']' :: rest => .ok ([item], rest)
    | ',' :: rest =>
      let (items, rest) ← readItems fuel depth (skipSpace rest)
      .ok (item :: items, rest)
    | rest => .error (.commaExpected, rest)

/-- Reads the fields of an object up to its end, `done` being those that have been read. -/
def readFields (fuel depth : Nat) (done : Table Json) (cs : List Char) :
    Except Failure (Table Json × List Char) :=
  match fuel with
  | 0 => .error (.keyExpected, cs)
  | fuel + 1 =>
    match cs with
    | '"' :: rest => do
      let (key, rest) ← readText cs [] rest
      match skipSpace rest with
      | ':' :: rest =>
        let (value, rest) ← readValue fuel depth (skipSpace rest)
        let fields := Table.set done key value
        match skipSpace rest with
        | '}' :: rest => .ok (fields, rest)
        | ',' :: rest => readFields fuel depth fields (skipSpace rest)
        | rest => .error (.commaExpected, rest)
      | rest => .error (.colonExpected, rest)
    | _ => .error (.keyExpected, cs)

end

/-- Reads characters that hold one value and nothing else. -/
def readChars (cs : List Char) : Except Failure Json := do
  let (value, rest) ← readValue (2 * cs.length + 2) nestingLimit (skipSpace cs)
  match skipSpace rest with
  | [] => .ok value
  | rest => .error (.trailingText, rest)

/-- Reads a JSON text. -/
def read (source : String) : Except ReadError Json :=
  let cs := source.toList
  (readChars cs).mapError fun (fault, rest) => ⟨fault, cs.length - rest.length⟩

/-- Reads a JSON text that was sent as the body of a message, whatever its encoding. In UTF-8 a byte
    order mark in front of it does not count. -/
def readBody (source : String) : Except ReadError Json :=
  match source.toList with
  | '\uFEFF' :: rest => read (String.ofList rest)
  | _ =>
    match (Text.Encoding.ofZeros source.toUTF8.data.toList).reread? source with
    | some decoded => read decoded
    | none => .error ⟨.undecodable, 0⟩

end HomeAutomation.Json
