/-
  HomeAutomation.Poller.Tick

  Polling: every tick of a room reads the sensor and dispatches the snapshot. A reading that fails
  is noted and dispatches nothing; a snapshot that cannot be dispatched is dropped. In a round all
  rooms tick at once.
-/
import HomeAutomation.Engine.Operation
import HomeAutomation.Poller.Live
import HomeAutomation.Sensor.Room

namespace HomeAutomation

/-- What is outside: devices behind a backend and hosts that answer requests. -/
structure World (σ : Type) where
  backend : Backend σ
  fetch : HttpRequest → σ → σ × HttpReply

namespace Engine

variable {σ : Type}

/-- Reads a sensor and notes what came of it; gives the snapshot that is to be dispatched. -/
def poll (engine : Engine σ) (world : World σ) (live : Live) (sensor : RoomSensor) :
    Engine σ × Live × Option Json :=
  let (outside, result) := sensor.read world.fetch engine.outside
  let live := (live.begin sensor.room).finish sensor.room (result.mapError SensorError.message)
  ({ engine with outside }, live, result.toOption)

/-- Reads sensors in their order; gives the snapshots that are to be dispatched. -/
def pollAll (world : World σ) : Engine σ → Live → List RoomSensor → Engine σ × Live × List Json
  | engine, live, [] => (engine, live, [])
  | engine, live, sensor :: rest =>
    let (engine, live, snapshot) := engine.poll world live sensor
    let (engine, live, snapshots) := pollAll world engine live rest
    (engine, live, snapshot.toList ++ snapshots)

/-- A round: all rooms tick at once. -/
def round (engine : Engine σ) (world : World σ) (live : Live) (sensors : List RoomSensor) :
    Engine σ × Live :=
  let (engine, live, snapshots) := pollAll world engine live sensors
  ((engine.dispatchAll world.backend snapshots).1, live)

/-- A tick of one room. -/
def tick (engine : Engine σ) (world : World σ) (live : Live) (sensor : RoomSensor) :
    Engine σ × Live :=
  engine.round world live [sensor]

/-- A number of rounds. -/
def rounds (engine : Engine σ) (world : World σ) (live : Live) (sensors : List RoomSensor) :
    Nat → Engine σ × Live
  | 0 => (engine, live)
  | n + 1 =>
    let (engine, live) := engine.round world live sensors
    rounds engine world live sensors n

end Engine

end HomeAutomation
