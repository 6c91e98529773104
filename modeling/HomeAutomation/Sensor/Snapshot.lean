/-
  HomeAutomation.Sensor.Snapshot

  Snapshots of sensor values. A snapshot is a JSON object whose known keys hold objects from
  locations to values. It is flattened into readings, at most one for a metric and a location: a
  value under `temp` goes before one under `temperature`, and else the later value counts, in
  the place where the pair first occurred.
-/
import HomeAutomation.Json.Value
import HomeAutomation.Text.Normal

namespace HomeAutomation

/-- One value of one metric at one location. -/
structure SensorReading where
  metric : String
  location : String
  value : Json
  deriving Repr, Inhabited

namespace SensorReading

/-- What the reading is about: its metric and its location. -/
def key (r : SensorReading) : String × String := (r.metric, r.location)

end SensorReading

namespace Snapshot

/-- The metric whose values stand under a key of a snapshot, and the rank of that key among the
    keys of its metric. -/
def metricOfKey? : String → Option (String × Nat)
  | "temp" => some ("temperature", 1)
  | "temperature" => some ("temperature", 0)
  | "humidity" => some ("humidity", 0)
  | "motion" => some ("motion", 0)
  | _ => none

/-- A reading with the rank of the key under which it stood. -/
structure Ranked where
  rank : Nat
  reading : SensorReading
  deriving Repr, Inhabited

/-- All values of a snapshot in document order; what is under a known key and no object is
    passed over. -/
def occurrences (fields : Table Json) : List Ranked :=
  fields.flatMap fun (key, values) =>
    match metricOfKey? key, values with
    | some (metric, rank), .object entries =>
      entries.map fun (location, value) => ⟨rank, ⟨metric, Text.normalize location, value⟩⟩
    | _, _ => []

/-- Enters an occurrence: in the place of one about the same pair, unless that has a higher rank, or
    at the end. -/
def enter : List Ranked → Ranked → List Ranked
  | [], new => [new]
  | held :: rest, new =>
    if held.reading.key = new.reading.key then
      (if new.rank < held.rank then held else new) :: rest
    else held :: enter rest new

/-- What is no snapshot: a value that is no object. -/
structure NotASnapshot where
  deriving DecidableEq, Repr

/-- The readings of a snapshot. -/
def readings : Json → Except NotASnapshot (List SensorReading)
  | .object fields => .ok (((occurrences fields).foldl enter []).map (·.reading))
  | _ => .error {}

/-! ## Fragments -/

/-- A field that holds the value of one room, if there is one. -/
def roomField {α : Type} (key room : String) (write : α → Json) (value : Option α) : Table Json :=
  (value.map fun given => (key, Json.object [(room, write given)])).toList

/-- The snapshot of one room from the values of its sensor; what is null is left out. -/
def ofRoom (room : String) (temperature humidity motion : Json) :
    Except Json.ConversionError Json := do
  let degrees ← temperature.nonNull?.mapM Json.toDouble
  let percent ← humidity.nonNull?.mapM Json.toDouble
  let moving := motion.nonNull?.map Json.isTrue
  return .object (roomField "temp" room .double degrees ++ roomField "humidity" room .double percent
    ++ roomField "motion" room .bool moving)

end Snapshot

end HomeAutomation
