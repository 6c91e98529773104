/-
  HomeAutomation.Poller.Polling

  Ticks that overlap. A tick of a room begins, its sensor is read, and a snapshot is dispatched by
  a task of the engine. Meanwhile other ticks may begin and go on, of this room and of others, and
  the engine may be asked for anything else. What fails in a tick ends it and goes no further: a
  sensor that could not be read is noted, a failed dispatch is noted nowhere.
-/
import HomeAutomation.Poller.Tick

namespace HomeAutomation

/-- What may fail in a tick. -/
inductive TickError
  | unread (error : SensorError)
  | undispatched (error : DispatchError)
  deriving DecidableEq, Repr

/-- How far a tick has come. -/
inductive TickPhase
  /-- The sensor is being read. -/
  | reading
  /-- The snapshot is being dispatched by the task of a number. -/
  | dispatching (task : Nat)
  /-- The tick is over, with a failure if there is one that has gone further. -/
  | ended (result : Except TickError Unit)

/-- A tick of a room. -/
structure Tick where
  room : String
  phase : TickPhase := .reading

/-- How a tick ends, given what became of its last part. -/
def Tick.close (attempt : Except TickError Unit) : TickPhase :=
  .ended (tryCatch attempt fun _ => pure ())

/-- The engine and what is known of the rooms, with the ticks that have begun. A tick is known by
    its place in the list. -/
structure Polling (σ : Type) where
  activity : Activity σ
  live : Live
  ticks : List Tick := []

namespace Polling

variable {σ : Type}

/-- No tick has begun, and nothing is known of the rooms. -/
def idle (activity : Activity σ) (rooms : List String) : Polling σ :=
  { activity, live := .ofRooms rooms }

/-- Brings a tick into a phase. -/
def enter (polling : Polling σ) (place : Nat) (room : String) (phase : TickPhase) : Polling σ :=
  { polling with ticks := polling.ticks.set place { room, phase } }

/-- A tick of a room begins. -/
def begin (polling : Polling σ) (room : String) : Polling σ :=
  { polling with live := polling.live.begin room, ticks := polling.ticks ++ [{ room }] }

/-- What reading a sensor gives now. -/
def reading (polling : Polling σ) (world : World σ) (sensor : RoomSensor) :
    Except SensorError Json :=
  (sensor.read world.fetch polling.activity.engine.outside).2

/-- Notes what came of reading a sensor. -/
def note (polling : Polling σ) (world : World σ) (sensor : RoomSensor) : Polling σ :=
  let (outside, result) := sensor.read world.fetch polling.activity.engine.outside
  { polling with
    activity := { polling.activity with engine := { polling.activity.engine with outside } }
    live := polling.live.finish sensor.room (result.mapError SensorError.message) }

/-- A snapshot starts to be dispatched. -/
def dispatch (polling : Polling σ) (snapshot : Json) : Polling σ :=
  let tasks := polling.activity.tasks ++ [.dispatch { snapshot }]
  { polling with activity := { polling.activity with tasks } }

/-- The sensor of a tick has been read, or could not be; what was read goes to be dispatched. -/
def hear (polling : Polling σ) (world : World σ) (place : Nat) (sensor : RoomSensor) : Polling σ :=
  let noted := polling.note world sensor
  match polling.reading world sensor with
  | .error e => noted.enter place sensor.room (Tick.close (.error (.unread e)))
  | .ok snapshot =>
    (noted.dispatch snapshot).enter place sensor.room (.dispatching noted.activity.tasks.length)

/-- The dispatch of a tick has ended, and the tick ends. -/
def leave (polling : Polling σ) (place : Nat) (room : String)
    (result : Except DispatchError (List ActionOutcome)) : Polling σ :=
  polling.enter place room (Tick.close (discard (result.mapError .undispatched)))

end Polling

end HomeAutomation
