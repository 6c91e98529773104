/-
  HomeAutomation.Sensor.Simulated

  Sensors whose values are set by hand. A sensor reports what it was set up with until it is set
  anew; while it is disabled it cannot be read.
-/
import HomeAutomation.Sensor.Error
import HomeAutomation.Sensor.Snapshot

namespace HomeAutomation

/-- A simulated sensor of one room. The values it was set up with are kept as they were given. -/
structure SimulatedSensor where
  room : String
  enabled : Bool := true
  temperature : Json := .double 24
  humidity : Json := .double 45
  motion : Json := .bool false
  deriving Repr, Inhabited

namespace SimulatedSensor

/-- Sets the values that are given. They are converted one after the other: after a failure the
    earlier ones stay set. -/
def setValues (s : SimulatedSensor) (temperature humidity motion : Json) :
    SimulatedSensor × Option Json.ConversionError :=
  match temperature.nonNull?.mapM Json.toDouble with
  | .error e => (s, some e)
  | .ok degrees =>
    let s := { s with temperature := (degrees.map Json.double).getD s.temperature }
    match humidity.nonNull?.mapM Json.toDouble with
    | .error e => (s, some e)
    | .ok percent =>
      let s := { s with humidity := (percent.map Json.double).getD s.humidity }
      match motion.nonNull? with
      | some moving => ({ s with motion := .bool moving.isTrue }, none)
      | none => (s, none)

/-- The snapshot that the sensor reports. -/
def read (s : SimulatedSensor) : Except SensorError Json :=
  if s.enabled then
    (Snapshot.ofRoom s.room s.temperature s.humidity s.motion).mapError .badValue
  else .error (.disabled s.room)

/-- The sensor as reports show it. -/
def status (s : SimulatedSensor) : Table Json :=
  [("room", .text s.room), ("enabled", .bool s.enabled), ("temperature", s.temperature),
   ("humidity", s.humidity), ("motion", s.motion)]

end SimulatedSensor

end HomeAutomation
