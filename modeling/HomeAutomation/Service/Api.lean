/-
  HomeAutomation.Service.Api

  The requests that the service answers, by path and method. A path may end in a line feed where its
  last part is a fixed word. A body is looked at in three steps: it has to be JSON, then the parts of
  the service that the request needs have to be there, then the fields are read.
-/
import HomeAutomation.Poller.Tick
import HomeAutomation.Service.Rules

namespace HomeAutomation

/-- The state of the service. -/
structure Service (σ : Type) where
  engine : Engine σ
  live : Live
  sensors : List RoomSensor

/-- What the service runs with. -/
structure Setup (σ : Type) where
  world : World σ
  /-- Files a rule. -/
  saveRule : RuleWrite → σ → Except StorageError σ
  appName : String
  mode : String
  /-- The text that stands for times. -/
  time : String
  /-- Why the local time cannot be told, if it cannot. -/
  zoneError : Option TimeZoneError := none
  /-- The parts that the service runs without. -/
  missing : List ServicePart := []
  /-- Whether it is an error to ask for simulated sensors where there are none. -/
  sensorsExpected : Bool := false

/-- A request to the service; the body is the text that was sent. The target is the path that is
    asked for, as the sender writes it. -/
structure ServiceRequest where
  method : String
  target : String
  body : String := ""
  deriving Repr

/-- What a request asks for. -/
inductive Route
  | live
  | listRules
  | createRule
  | deleteRule (ruleId : String)
  | executeRule (ruleId : String)
  | submitSnapshot
  | listEvents
  | listDevices
  | listSensors
  | setSensor (room : String)
  /-- A page that describes the service. -/
  | description
  deriving DecidableEq, Repr

namespace Route

/-- What may be asked for under the parts of a path, by method. -/
def offered : List String → List (String × Route)
  | ["", "api", "live"] => [("GET", live)]
  | ["", "api", "rules"] => [("GET", listRules), ("POST", createRule)]
  | ["", "api", "rules", ruleId] => if ruleId.isEmpty then [] else [("DELETE", deleteRule ruleId)]
  | ["", "api", "rules", ruleId, "execute"] =>
    if ruleId.isEmpty then [] else [("POST", executeRule ruleId)]
  | ["", "api", "sensors"] => [("POST", submitSnapshot)]
  | ["", "api", "events"] => [("GET", listEvents)]
  | ["", "api", "devices"] => [("GET", listDevices)]
  | ["", "api", "sim", "sensors"] => [("GET", listSensors)]
  | ["", "api", "sim", "sensors", room] => if room.isEmpty then [] else [("POST", setSensor room)]
  | ["", "docs"] | ["", "docs", "oauth2-redirect"] | ["", "redoc"] =>
    [("GET", description), ("HEAD", description)]
  | _ => []

/-- The parts of a path between its slashes. -/
def segments (path : String) : List String :=
  (HostName.splitAt '/' path.toList).map String.ofList

/-- A path without a line feed at its end. -/
def withoutLineFeed (path : String) : String :=
  match path.toList.reverse with
  | '\n' :: rest => String.ofList rest.reverse
  | _ => path

/-- What may be asked for under a path, by method. -/
def under (path : String) : List (String × Route) :=
  match offered (segments path) with
  | [] => offered (segments (withoutLineFeed path))
  | routes => routes

/-- A path without the slashes at its end. -/
def withoutSlashes (path : String) : String :=
  String.ofList (path.toList.reverse.dropWhile (· == '/')).reverse

/-- What a method asks for under a path. -/
def find (method path : String) : Except Answer Route :=
  match under path with
  | [] =>
    if path.endsWith "/" && !(under (withoutSlashes path)).isEmpty then .error .moved
    else .error .notFound
  | routes =>
    match Table.get? routes method with
    | some route => .ok route
    | none => .error .notOffered

/-- The parts of the service that a request needs, in the order in which they are asked for. -/
def needs : Route → List ServicePart
  | live => [.poller]
  | createRule | deleteRule _ => [.rules, .storage]
  | listRules | executeRule _ | submitSnapshot | listEvents | listDevices => [.rules]
  | listSensors | setSensor _ => [.simulatedSensors]
  | description => []

/-- Whether a request has a body. -/
def hasBody : Route → Bool
  | createRule | executeRule _ | submitSnapshot | setSensor _ => true
  | _ => false

end Route

namespace Service

variable {σ : Type}

/-! ## Answers -/

/-- A result in answers. -/
def outcomeJson (o : ActionOutcome) : Json :=
  .object [("rule_id", .text o.ruleId), ("condition", .text o.condition),
    ("skipped", .bool o.skipped), ("result", (o.result.map ExecuteResult.toJson).getD .null),
    ("error", .ofText? o.error), ("detail", if o.extra.isEmpty then .null else .object o.extra)]

/-- The rooms as they were last seen. -/
def answerLive (setup : Setup σ) (service : Service σ) : Answer :=
  match setup.zoneError with
  | some e => .fail (.timeZone e)
  | none => .success [("app", .text setup.appName), ("mode", .text setup.mode),
    ("now_local", .text setup.time), ("rooms", service.live.toJson setup.time)]

/-- The state of every device that was given one. -/
def answerDevices (setup : Setup σ) (service : Service σ) : Answer :=
  .success [("devices", .object (service.engine.records.map fun (deviceId, state) =>
    (deviceId, .object [("state", state.payload), ("ts_utc", .text setup.time)])))]

/-- The simulated sensors. -/
def simulated (service : Service σ) : List SimulatedSensor :=
  service.sensors.filterMap fun
    | .simulated sensor => some sensor
    | _ => none

/-- Carries out the action of a rule. -/
def executeRule (setup : Setup σ) (service : Service σ) (ruleId : String) (force : Bool) :
    Service σ × Answer :=
  let (engine, result) := service.engine.executeRule setup.world.backend ⟨ruleId, force⟩
  let answer : Answer :=
    match result with
    | .error e => .refusal 404 (.text e.message)
    | .ok (.error (.notFound e)) => .refusal 404 (.text e.message)
    | .ok (.error (.call e)) => .refusal 502 (.object e.fields)
    | .ok (.ok result) => .success [("ok", .bool true), ("result", result.toJson)]
  ({ service with engine }, answer)

/-- Dispatches a snapshot that is sent in. -/
def submitSnapshot (setup : Setup σ) (service : Service σ) (request : SnapshotRequest) :
    Service σ × Answer :=
  let (engine, result) := service.engine.dispatch setup.world.backend request.snapshot
  let answer : Answer :=
    match result with
    | .error e => .fail (.dispatch e)
    | .ok outcomes => .success [("ok", .bool (outcomes.all (·.ok))),
        ("outcomes", .list (outcomes.map outcomeJson))]
  ({ service with engine }, answer)

/-- Sets the values of a simulated sensor. -/
def setSensor (service : Service σ) (room : String) (request : SensorRequest) :
    Service σ × Answer :=
  let name := Text.normalize room
  match (simulated service).find? fun sensor => sensor.room == name with
  | none => (service, .refusal 404 (.text ("No simulated sensor for room '" ++ room ++ "'")))
  | some sensor =>
    let json (value : Option Double) : Json := (value.map Json.double).getD .null
    let (sensor, _) := sensor.setValues (json request.temperature) (json request.humidity)
      ((request.motion.map Json.bool).getD .null)
    let sensors := service.sensors.map fun
      | .simulated old => .simulated (if old.room == name then sensor else old)
      | other => other
    ({ service with sensors }, .success (("ok", .bool true) :: sensor.status))

/-! ## Requests -/

/-- Reads the fields of a body. A body that is missing or null has none. -/
def readFields {α : Type} (body : Option Json) (read : Table Json → Checked α) : Checked α :=
  match body with
  | some (.object fields) => read fields
  | some value => .refuse value
  | none => .refuse .null

/-- Serves a request that has been understood; `body` is what was sent, if it was anything. -/
def serve (setup : Setup σ) (service : Service σ) (route : Route) (body : Option Json) :
    Service σ × Answer :=
  let book := service.engine.book
  let withFields {α : Type} (read : Table Json → Checked α)
      (go : α → Service σ × Answer) : Service σ × Answer :=
    match readFields body read with
    | .ok request => go request
    | .error issues => (service, .ofIssues issues)
  let changed (change : Engine σ × RuleChange) : Service σ × Answer :=
    let (engine, answer) := change.2.file setup.saveRule change.1
    ({ service with engine }, answer)
  match route with
  | .live => (service, answerLive setup service)
  | .listRules => (service, .success [("rules", book.rulesJson setup.time)])
  | .createRule => withFields RuleRequest.ofFields fun request =>
      changed (RuleChange.create service.engine setup.time request)
  | .deleteRule ruleId => changed (RuleChange.delete service.engine ruleId)
  | .executeRule ruleId => withFields ExecuteRequest.ofFields fun request =>
      executeRule setup service ruleId request.force
  | .submitSnapshot => withFields SnapshotRequest.ofFields (submitSnapshot setup service)
  | .listEvents => (service, .success [("events", book.eventsJson setup.time)])
  | .listDevices => (service, answerDevices setup service)
  | .listSensors => (service, .success [("rooms",
      .list ((simulated service).map fun sensor => .object sensor.status))])
  | .setSensor room => withFields SensorRequest.ofFields (setSensor service room)
  | .description => (service, .page)

/-- Why a request cannot be served: the first part that it needs and that the service is
    without. -/
def obstacle? (setup : Setup σ) (service : Service σ) (route : Route) : Option ServiceFailure :=
  match route.needs.find? (· ∈ setup.missing) with
  | some part => some (.missing part)
  | none =>
    if setup.sensorsExpected && route.needs.contains .simulatedSensors
        && (simulated service).isEmpty then
      some .sensorsNotSimulated
    else none

/-- Reads the body that was sent. -/
def readBody (body : String) : Except Answer (Option Json) :=
  if body.isEmpty then .ok none
  else
    match Json.readBody body with
    | .ok value => .ok value.nonNull?
    | .error ⟨.integerTooLong, _⟩ | .error ⟨.tooDeep, _⟩ | .error ⟨.undecodable, _⟩ =>
      .error .unreadable
    | .error e => .error (.invalid [["body", toString e.offset]])

/-- Answers a request that is understood; `method` is in capitals. -/
def respond (setup : Setup σ) (service : Service σ) (method path body : String) :
    Service σ × Answer :=
  match Route.find method path with
  | .error refusal => (service, refusal)
  | .ok route =>
    match if route.hasBody then readBody body else .ok none with
    | .error refusal => (service, refusal)
    | .ok body =>
      match obstacle? setup service route with
      | some failure => (service, .fail failure)
      | none => serve setup service route body

/-- Answers a request. A request for the head of an answer gets no body. -/
def answer (setup : Setup σ) (service : Service σ) (request : ServiceRequest) :
    Service σ × Answer :=
  let method := request.method.toUpper
  let (service, answer) :=
    respond setup service method (Url.rootPath request.target) request.body
  (service, if method = "HEAD" then answer.withoutBody else answer)

end Service

end HomeAutomation
