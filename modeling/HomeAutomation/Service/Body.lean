/-
  HomeAutomation.Service.Body

  The bodies of requests. A body is an object whose fields are read leniently: numbers may be given
  as truth values or numerals, truth values as numbers or words; fields that nobody asks for are
  passed over. All that is wrong with a body is found at once, each issue with its place.
-/
import HomeAutomation.Json.Reader
import HomeAutomation.Json.Writer
import HomeAutomation.Number.Plain

namespace HomeAutomation

/-- Something wrong in a body: its place and the value found there, or around it if it is missing. -/
structure BodyIssue where
  place : List String
  given : Json
  deriving Repr

/-- What is read of a body, or all that is wrong with it. -/
abbrev Checked (α : Type) := Except (List BodyIssue) α

namespace Checked

variable {α β : Type}

/-- A value that does not fit where it stands. -/
def refuse (given : Json) : Checked α := .error [⟨[], given⟩]

/-- Reads two things; the issues of both count. -/
def both : Checked α → Checked β → Checked (α × β)
  | .ok a, .ok b => .ok (a, b)
  | .ok _, .error issues => .error issues
  | .error issues, .ok _ => .error issues
  | .error issues, .error others => .error (issues ++ others)

/-- Puts issues under the name of the field in which they were found. -/
def within (key : String) (result : Checked α) : Checked α :=
  result.mapError fun issues => issues.map fun issue => { issue with place := key :: issue.place }

end Checked

namespace Body

/-! ## Values -/

/-- A number. -/
def number (value : Json) : Checked Double :=
  match value with
  | .text numeral =>
    match Number.readPlainDouble? numeral with
    | some d => .ok d
    | none => .refuse value
  | _ =>
    match value.toDouble with
    | .ok d => .ok d
    | .error _ => .refuse value

/-- A number in a range. -/
def numberBetween (low high : Double) (value : Json) : Checked Double := do
  let d ← number value
  if low.le d && d.le high then .ok d else .refuse value

/-- The words for truth. -/
def trueWords : List String := ["1", "on", "t", "true", "y", "yes"]

/-- The words for falsehood. -/
def falseWords : List String := ["0", "off", "f", "false", "n", "no"]

/-- A truth value. -/
def truth (value : Json) : Checked Bool :=
  match value with
  | .bool b => .ok b
  | .text word =>
    let word := word.toLower
    if word ∈ trueWords then .ok true else if word ∈ falseWords then .ok false else .refuse value
  | _ =>
    if value.same (.integer 1) then .ok true
    else if value.same (.integer 0) then .ok false
    else .refuse value

/-- A text. -/
def text : Json → Checked String
  | .text value => .ok value
  | value => .refuse value

/-- A text that is not empty. -/
def nonEmptyText (value : Json) : Checked String := do
  let given ← text value
  if given.isEmpty then .refuse value else .ok given

/-- A value or null. -/
def orNull {α : Type} (read : Json → Checked α) : Json → Checked (Option α)
  | .null => .ok none
  | value => (read value).map some

/-- Reads the value of every entry. -/
def entries {α : Type} (read : Json → Checked α) : Table Json → Checked (Table α)
  | [] => .ok []
  | (key, value) :: rest =>
    (((read value).within key).both (entries read rest)).map fun (given, others) =>
      (key, given) :: others

/-- An object of values. -/
def table {α : Type} (read : Json → Checked α) : Json → Checked (Table α)
  | .object fields => entries read fields
  | value => .refuse value

/-! ## Fields -/

/-- A field that has to be there. -/
def field {α : Type} (fields : Table Json) (key : String) (read : Json → Checked α) : Checked α :=
  match fields.get? key with
  | some value => (read value).within key
  | none => .error [⟨[key], .object fields⟩]

/-- A field that may be missing. -/
def fieldOr {α : Type} (fields : Table Json) (key : String) (standIn : α)
    (read : Json → Checked α) : Checked α :=
  match fields.get? key with
  | some value => (read value).within key
  | none => .ok standIn

end Body

/-! ## Requests -/

/-- A request to register a rule. -/
structure RuleRequest where
  text : String
  id : Option String
  deriving DecidableEq, Repr

namespace RuleRequest

/-- Reads the fields of a request to register a rule. -/
def ofFields (fields : Table Json) : Checked RuleRequest :=
  ((Body.field fields "text" Body.nonEmptyText).both
    (Body.fieldOr fields "id" none (Body.orNull Body.text))).map fun (text, id) => ⟨text, id⟩

end RuleRequest

/-- A request to carry out the action of a rule. -/
structure ExecuteRequest where
  force : Bool
  deriving DecidableEq, Repr

namespace ExecuteRequest

/-- Reads the fields of a request to carry out an action. -/
def ofFields (fields : Table Json) : Checked ExecuteRequest :=
  (Body.fieldOr fields "force" false Body.truth).map fun force => ⟨force⟩

end ExecuteRequest

/-- A snapshot that is sent in. -/
structure SnapshotRequest where
  temp : Option (Table Double)
  temperature : Option (Table Double)
  humidity : Option (Table Double)
  motion : Option (Table Bool)
  deriving Repr

namespace SnapshotRequest

/-- Reads the fields of a snapshot that is sent in. -/
def ofFields (fields : Table Json) : Checked SnapshotRequest :=
  let numbers (key : String) :=
    Body.fieldOr fields key none (Body.orNull (Body.table Body.number))
  (((numbers "temp").both (numbers "temperature")).both
    ((numbers "humidity").both
      (Body.fieldOr fields "motion" none (Body.orNull (Body.table Body.truth))))).map
    fun ((temp, temperature), (humidity, motion)) => ⟨temp, temperature, humidity, motion⟩

/-- The field of a snapshot that holds a table of values. -/
def part {α : Type} (key : String) (write : α → Json) (values : Option (Table α)) : Table Json :=
  (values.map fun given =>
    (key, Json.object (given.map fun (location, value) => (location, write value)))).toList

/-- The snapshot, its parts in a fixed order. -/
def snapshot (r : SnapshotRequest) : Json :=
  .object (part "temp" .double r.temp ++ part "temperature" .double r.temperature
    ++ part "humidity" .double r.humidity ++ part "motion" .bool r.motion)

end SnapshotRequest

/-- A request to set the values of a simulated sensor. -/
structure SensorRequest where
  temperature : Option Double
  humidity : Option Double
  motion : Option Bool
  deriving Repr

namespace SensorRequest

/-- Reads the fields of a request to set a simulated sensor. -/
def ofFields (fields : Table Json) : Checked SensorRequest :=
  ((Body.fieldOr fields "temperature" none (Body.orNull Body.number)).both
    ((Body.fieldOr fields "humidity" none (Body.orNull (Body.numberBetween 0 100))).both
      (Body.fieldOr fields "motion" none (Body.orNull Body.truth)))).map
    fun (temperature, humidity, motion) => ⟨temperature, humidity, motion⟩

end SensorRequest

end HomeAutomation
