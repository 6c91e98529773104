/-
  HomeAutomation.Storage.Database

  The database of an installation: rules on file and the last state of every device. Its columns
  hold what their kind allows: a number that is none is stored as nothing, a zero loses its sign, a
  mode is stored as text, integers have 64 bits. Before its tables exist nothing can be read or
  written.
-/
import HomeAutomation.Device.State
import HomeAutomation.Storage.NumberText
import HomeAutomation.Storage.Rules

namespace HomeAutomation

/-- Why the database refuses something. -/
inductive StorageError
  /-- The tables do not exist. -/
  | noTables
  /-- A rule has no text. -/
  | noText
  /-- An integer has more than 64 bits. -/
  | tooLarge
  /-- A column cannot hold a value of this kind. -/
  | wrongKind
  deriving DecidableEq, Repr

/-- The tables of the database. -/
structure StorageTables where
  rules : RuleRows := []
  states : Table DeviceState := []
  deriving Repr, Inhabited

/-- The database; its tables may not have been made yet. -/
structure Database where
  tables? : Option StorageTables := none
  deriving Repr, Inhabited

namespace Database

/-- The tables. -/
def tables (db : Database) : Except StorageError StorageTables :=
  match db.tables? with
  | some tables => .ok tables
  | none => .error .noTables

/-- Makes the tables unless they exist. -/
def init (db : Database) : Database := ⟨some (db.tables?.getD {})⟩

/-! ## Rules -/

/-- Files a rule. -/
def fileRule (db : Database) (write : RuleWrite) : Except StorageError Database := do
  let tables ← db.tables
  return ⟨some { tables with rules := tables.rules.upsert write }⟩

/-- Files a rule whose text may be missing. -/
def upsert (db : Database) (id : String) (text : Option String) (active : Bool) :
    Except StorageError Database := do
  let _ ← db.tables
  match text with
  | some text => db.fileRule ⟨id, text, active⟩
  | none => .error .noText

/-- The rules on file. -/
def rules (db : Database) : Except StorageError RuleRows := return (← db.tables).rules

/-- The rule of an id. -/
def rule? (db : Database) (id : String) : Except StorageError (Option StoredRule) :=
  return (← db.rules).get? id

/-! ## Columns -/

/-- What a column of integers holds. -/
def integerColumn (n : Int) : Except StorageError Int :=
  if -0x8000000000000000 ≤ n && n < 0x8000000000000000 then .ok n else .error .tooLarge

/-- What a column of numbers holds: nothing for what is no number, and no zero with a sign. -/
def numberColumn (d : Double) : Option Double :=
  match d with
  | .nan => none
  | d => some (if d.isZero then 0 else d)

/-- What a column of texts holds. -/
def textColumn : Json → Except StorageError (Option Json)
  | .null => .ok none
  | .bool value => .ok (some (.text (if value then "1" else "0")))
  | .integer value => do return some (.text (toString (← integerColumn value)))
  | .double value => .ok ((ColumnNumber.text? value).map .text)
  | .text value => .ok (some (.text value))
  | _ => .error .wrongKind

/-! ## States -/

/-- The state that a row holds after a state was written to it. -/
def storedState (s : DeviceState) : Except StorageError DeviceState := do
  let mode ← textColumn (s.mode.getD .null)
  let brightness ← s.brightness.mapM integerColumn
  return { power := s.power, temperature := s.temperature.bind numberColumn, mode, brightness }

/-- Stores the state of a device. -/
def saveState (db : Database) (deviceId : String) (s : DeviceState) :
    Except StorageError Database := do
  let tables ← db.tables
  let state ← storedState s
  return ⟨some { tables with states := tables.states.set deviceId state }⟩

/-- The states of the devices. -/
def states (db : Database) : Except StorageError (Table DeviceState) := return (← db.tables).states

end Database

end HomeAutomation
