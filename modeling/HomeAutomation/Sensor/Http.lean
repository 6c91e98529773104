/-
  HomeAutomation.Sensor.Http

  Sensors at the hosts of rooms. A host answers with an object of values, from which the snapshot of
  the room is made.
-/
import HomeAutomation.Http.Message
import HomeAutomation.Sensor.Error
import HomeAutomation.Sensor.Snapshot

namespace HomeAutomation.HttpSensor

/-- The request that reads the sensors of a room. -/
def request (host : String) : Except HttpError HttpRequest := do
  return { method := "GET", url := ← Http.readUrl (Http.sensorUrl host) }

/-- The snapshot of a room from the answer of its host. -/
def snapshotOf (room : String) : HttpReply → Except SensorError Json
  | .unreachable reason => .error (.unreachable reason)
  | .response status source =>
    if Http.isSuccess status then
      match Json.readBody source with
      | .error e => .error (.notJson e)
      | .ok (.object fields) =>
        let body := Json.object fields
        (Snapshot.ofRoom room (body.field "temperature") (body.field "humidity")
          (body.field "motion")).mapError .badValue
      | .ok _ => .error .notAnObject
    else .error (.badStatus status)

/-- Reads the sensors of a room. `fetch` answers the requests to hosts. -/
def read {σ : Type} (fetch : HttpRequest → σ → σ × HttpReply) (room host : String) (s : σ) :
    σ × Except SensorError Json :=
  let (s, reply) := Http.exchange fetch (request host) s
  (s, (reply.mapError .notAsked).bind (snapshotOf room))

end HomeAutomation.HttpSensor
