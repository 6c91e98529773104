/-
  HomeAutomation.Json.Value

  JSON values. Integers have any size and are kept apart from doubles, and an object is the list of
  its fields in document order. Values come from snapshots, device answers and home configurations
  that nobody has checked, so besides the type there are the views under which any value can be
  used: its truth, its equality with another value, the number it stands for.
-/
import HomeAutomation.Number.Numeral
import HomeAutomation.Table

namespace HomeAutomation

/-- A JSON value. -/
inductive Json
  | null
  | bool (value : Bool)
  | integer (value : Int)
  | double (value : Double)
  | text (value : String)
  | list (items : List Json)
  | object (fields : List (String × Json))
  deriving Repr, Inhabited, BEq

namespace Json

/-! ## Fields -/

/-- The value of a field, if this is an object that has it. -/
def field? (value : Json) (key : String) : Option Json :=
  match value with
  | object fields => Table.get? fields key
  | _ => none

/-- The value of a field, or null. -/
def field (value : Json) (key : String) : Json := (value.field? key).getD null

/-- The value, unless it is null. -/
def nonNull? : Json → Option Json
  | null => none
  | value => some value

/-- The text that this is, if it is one. -/
def text? : Json → Option String
  | text value => some value
  | _ => none

/-- The integer that this is, if it is one. -/
def integer? : Json → Option Int
  | integer value => some value
  | _ => none

/-- The items of a list; nothing else has any. -/
def items : Json → List Json
  | list items => items
  | _ => []

/-- The fields of an object; nothing else has any. -/
def fields : Json → Table Json
  | object fields => fields
  | _ => []

/-- The text that an optional text stands for: null where there is none. -/
def ofText? : Option String → Json
  | some value => text value
  | none => null

/-- The number that an optional double stands for: null where there is none. -/
def ofDouble? : Option Double → Json
  | some value => double value
  | none => null

/-- The number that an optional integer stands for: null where there is none. -/
def ofInteger? : Option Int → Json
  | some value => integer value
  | none => null

/-! ## Truth -/

/-- Whether a value counts as true: all do but null, false, the zeros and what is empty. -/
def isTrue : Json → Bool
  | null => false
  | bool value => value
  | integer value => value != 0
  | double value => !value.isZero
  | text value => !value.isEmpty
  | list items => !items.isEmpty
  | object fields => !fields.isEmpty

/-! ## Equality -/

/-- Whether a double is exactly an integer. -/
def doubleIs (d : Double) (n : Int) : Bool := d.toInt? == some n

/-- Equality of two numbers, truth values counting as 0 and 1. `none` where one is not a number. -/
def numbersSame? : Json → Json → Option Bool
  | integer a, integer b => some (a == b)
  | integer a, double b => some (doubleIs b a)
  | integer a, bool b => some (a == b.toInt)
  | double a, integer b => some (doubleIs a b)
  | double a, double b => some (a.eq b)
  | double a, bool b => some (doubleIs a b.toInt)
  | bool a, integer b => some (a.toInt == b)
  | bool a, double b => some (doubleIs b a.toInt)
  | bool a, bool b => some (a == b)
  | _, _ => none

mutual

/-- Equality of values: numbers by what they count, lists item by item, objects field by field in
    any order. What is no number is the same as itself. -/
def same : Json → Json → Bool
  | null, null => true
  | double .nan, double .nan => true
  | text a, text b => a == b
  | list as, list bs => sameItems as bs
  | object as, object bs => as.length == bs.length && sameFields as bs
  | a, b => (numbersSame? a b).getD false

/-- Equality of lists, item by item. -/
def sameItems : List Json → List Json → Bool
  | [], [] => true
  | a :: as, b :: bs => same a b && sameItems as bs
  | _, _ => false

/-- Whether each field of the first list has an equal in the second. -/
def sameFields : List (String × Json) → List (String × Json) → Bool
  | [], _ => true
  | (key, a) :: as, bs =>
    (match Table.get? bs key with
      | some b => same a b
      | none => false) && sameFields as bs

end

/-! ## Conversion -/

/-- Why a value does not stand for a number. -/
inductive ConversionError
  /-- The value is of a kind that never stands for a number. -/
  | wrongKind
  /-- The text is no numeral, or the number is no integer. -/
  | malformed
  /-- The number exceeds the range of the result. -/
  | outOfRange
  deriving DecidableEq, Repr

/-- The double that a value stands for: a number, a truth value as 0 or 1, or a numeral. -/
def toDouble : Json → Except ConversionError Double
  | bool value => .ok (if value then 1 else 0)
  | integer value =>
    match Double.ofInt? value with
    | some d => .ok d
    | none => .error .outOfRange
  | double value => .ok value
  | text value =>
    match Number.readDouble? value with
    | some d => .ok d
    | none => .error .malformed
  | _ => .error .wrongKind

/-- The integer that a value stands for; a double loses its fraction. -/
def toInteger : Json → Except ConversionError Int
  | bool value => .ok value.toInt
  | integer value => .ok value
  | double value =>
    match value, value.truncate? with
    | _, some n => .ok n
    | .nan, none => .error .malformed
    | _, none => .error .outOfRange
  | text value =>
    match Number.readInteger? value with
    | some n => .ok n
    | none => .error .malformed
  | _ => .error .wrongKind

end Json

end HomeAutomation
