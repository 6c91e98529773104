/-
  HomeAutomation.Json.Writer

  Written forms of JSON values. A style gives the separators and says whether characters beyond
  ASCII are escaped.
-/
import HomeAutomation.Json.Value
import HomeAutomation.Number.Layout
import HomeAutomation.Text.Quoted

namespace HomeAutomation.Json

/-- The choices of a written form. -/
structure Style where
  itemSeparator : String
  keySeparator : String
  asciiOnly : Bool

/-- One line for people to read: separators are followed by a space, all is ASCII. -/
def spaced : Style := ⟨", ", ": ", true⟩

/-- No needless character, all is ASCII. -/
def compact : Style := ⟨",", ":", true⟩

/-- What is sent to devices: no needless character, text as it is. -/
def wire : Style := ⟨",", ":", false⟩

/-! ## Leaves -/

/-- A four-digit escape of a UTF-16 unit. -/
def unitEscape (unit : Nat) : List Char := '\\' :: 'u' :: Text.hex 4 unit

/-- The escapes of a character: one UTF-16 unit or two. -/
def codeEscape (c : Char) : List Char :=
  let n := c.toNat
  if n < 0x10000 then unitEscape n
  else unitEscape (0xD800 + (n - 0x10000) / 0x400) ++ unitEscape (0xDC00 + (n - 0x10000) % 0x400)

/-- A character inside a written text. -/
def escapeChar (asciiOnly : Bool) (c : Char) : List Char :=
  if c = '"' then ['\\', '"']
  else if c = '\\' then ['\\', '\\']
  else if c = '\n' then ['\\', 'n']
  else if c = '\r' then ['\\', 'r']
  else if c = '\t' then ['\\', 't']
  else if c.toNat = 0x08 then ['\\', 'b']
  else if c.toNat = 0x0C then ['\\', 'f']
  else if c.toNat < 0x20 || (asciiOnly && 0x7E < c.toNat) then codeEscape c
  else [c]

/-- A text between quotation marks. -/
def writeText (asciiOnly : Bool) (value : String) : String :=
  String.ofList ('"' :: value.toList.flatMap (escapeChar asciiOnly) ++ ['"'])

/-- A number; the values that JSON has no numeral for are written as words. -/
def writeDouble : Double → String
  | .nan => "NaN"
  | .infinite negative => if negative then "-Infinity" else "Infinity"
  | d => d.repr

/-! ## Values -/

mutual

/-- The written form of a value. -/
def write (style : Style) : Json → String
  | null => "null"
  | bool value => if value then "true" else "false"
  | integer value => toString value
  | double value => writeDouble value
  | text value => writeText style.asciiOnly value
  | list items => "[" ++ style.itemSeparator.intercalate (writeItems style items) ++ "]"
  | object fields =>
    "\x7b" ++ style.itemSeparator.intercalate (writeFields style fields) ++ "\x7d"

/-- The written forms of the items of a list. -/
def writeItems (style : Style) : List Json → List String
  | [] => []
  | item :: items => write style item :: writeItems style items

/-- The written forms of the fields of an object. -/
def writeFields (style : Style) : List (String × Json) → List String
  | [] => []
  | (key, value) :: fields =>
    (writeText style.asciiOnly key ++ style.keySeparator ++ write style value)
      :: writeFields style fields

end

mutual

/-- Whether every number in a value is finite, so that the value can be written as JSON proper. -/
def isFinite : Json → Bool
  | double value => value.isFinite
  | list items => allFinite items
  | object fields => fieldsFinite fields
  | _ => true

/-- Whether every number in a list is finite. -/
def allFinite : List Json → Bool
  | [] => true
  | item :: items => item.isFinite && allFinite items

/-- Whether every number in the fields of an object is finite. -/
def fieldsFinite : List (String × Json) → Bool
  | [] => true
  | (_, value) :: fields => value.isFinite && fieldsFinite fields

end

mutual

/-- Whether no integer in a value has too many digits to be written. -/
def integersFit : Json → Bool
  | integer value => (Nat.toDigits 10 value.natAbs).length ≤ Number.integerDigitLimit
  | list items => allFit items
  | object fields => fieldsFit fields
  | _ => true

/-- Whether no integer in a list has too many digits. -/
def allFit : List Json → Bool
  | [] => true
  | item :: items => item.integersFit && allFit items

/-- Whether no integer in the fields of an object has too many digits. -/
def fieldsFit : List (String × Json) → Bool
  | [] => true
  | (_, value) :: fields => value.integersFit && fieldsFit fields

end

/-! ## Messages -/

mutual

/-- A value as messages show it: `None`, `True` and `False` for the names, texts quoted. -/
def display : Json → String
  | null => "None"
  | bool value => if value then "True" else "False"
  | integer value => toString value
  | double value => value.repr
  | text value => Text.quote value
  | list items => "[" ++ ", ".intercalate (displayItems items) ++ "]"
  | object fields => "\x7b" ++ ", ".intercalate (displayFields fields) ++ "\x7d"

/-- The items of a list as messages show them. -/
def displayItems : List Json → List String
  | [] => []
  | item :: items => display item :: displayItems items

/-- The fields of an object as messages show them. -/
def displayFields : List (String × Json) → List String
  | [] => []
  | (key, value) :: fields => (Text.quote key ++ ": " ++ display value) :: displayFields fields

end

/-- The kind of a value as messages name it. -/
def kind : Json → String
  | null => "NoneType"
  | bool _ => "bool"
  | integer _ => "int"
  | double _ => "float"
  | text _ => "str"
  | list _ => "list"
  | object _ => "dict"

/-- A value as a part of a message: a text as it is, anything else as messages show it. -/
def label : Json → String
  | text value => value
  | value => value.display

end HomeAutomation.Json
