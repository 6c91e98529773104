/-
  HomeAutomation.Sensor.Room

  The sensors of rooms, of all kinds: simulated ones, ones that report what a script says, and ones
  that a host answers for.
-/
import HomeAutomation.Sensor.Http
import HomeAutomation.Sensor.Simulated

namespace HomeAutomation

/-- The sensor of a room. -/
inductive RoomSensor
  | simulated (sensor : SimulatedSensor)
  /-- A sensor that reports a value, or fails for a reason. -/
  | scripted (room : String) (next : Except String Json)
  /-- A sensor that a host answers for. -/
  | remote (room host : String)
  deriving Repr

namespace RoomSensor

/-- The room of a sensor. -/
def room : RoomSensor → String
  | simulated sensor => sensor.room
  | scripted room _ => room
  | remote room _ => room

/-- Sensors without those whose room another sensor takes later on; that one stands in the place of
    the first. -/
def onePerRoom (sensors : List RoomSensor) : List RoomSensor :=
  (sensors.foldl (fun table sensor => Table.set table sensor.room sensor) []).values

/-- Reads a sensor. `fetch` answers the requests to hosts. -/
def read {σ : Type} (fetch : HttpRequest → σ → σ × HttpReply) (s : σ) :
    RoomSensor → σ × Except SensorError Json
  | simulated sensor => (s, sensor.read)
  | scripted _ (.ok value) => (s, .ok value)
  | scripted _ (.error reason) => (s, .error (.unreachable reason))
  | remote room host => HttpSensor.read fetch room host s

end RoomSensor

end HomeAutomation
