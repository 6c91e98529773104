/-
  HomeAutomation.Service.Installation

  An installation: the service with its database, its devices and the network on which the hosts of
  the rooms answer. It is started from settings, the rooms of a home and a database; the rules on
  file are registered, and the states in the database count as those that the devices were given
  last. Saving to the database suspends once.
-/
import HomeAutomation.Device.Http
import HomeAutomation.Device.Simulated
import HomeAutomation.Service.Api
import HomeAutomation.Service.Settings

namespace HomeAutomation

/-- How devices are controlled. -/
inductive DeviceControl
  | simulated (devices : SimulatedDevices)
  | hosts (key : Option String)
  deriving Repr

/-- What an installation runs on. -/
structure Site where
  control : DeviceControl
  database : Database
  /-- What requests to hosts get. -/
  network : HttpRequest → HttpReply
  /-- The requests so far. -/
  requests : List HttpRequest := []

namespace Site

/-- Sends a request to a host. -/
def fetch (site : Site) (request : HttpRequest) : Site × HttpReply :=
  ({ site with requests := site.requests ++ [request] }, site.network request)

/-- Reads a device. -/
def read (site : Site) (target : DeviceTarget) : Site × ReadReply :=
  match site.control with
  | .simulated devices => (site, devices.read target.deviceId)
  | .hosts key =>
    match HttpControl.read (fun request site => site.fetch request) key target.host target.deviceId
        site with
    | (site, .ok (some state)) => (site, .state state)
    | (site, .ok none) => (site, .unknown)
    | (site, .error e) => (site, .failed (Http.errorMessage e))

/-- Commands a device. -/
def command (site : Site) (target : DeviceTarget) (state : DeviceState) : Site × CommandReply :=
  match site.control with
  | .simulated devices =>
    let (devices, response) := devices.command target.deviceId state
    ({ site with control := .simulated devices }, .answered response)
  | .hosts key =>
    match HttpControl.command (fun request site => site.fetch request) key target.host
        target.deviceId state site with
    | (site, .ok response) => (site, .answered response)
    | (site, .error e) => (site, .failed (Http.errorMessage e))

/-- Saves the state of a device. -/
def save (site : Site) (deviceId : String) (state : DeviceState) : Site × Bool :=
  match site.database.saveState deviceId state with
  | .ok database => ({ site with database }, true)
  | .error _ => (site, false)

/-- A site as a backend. -/
def backend : Backend Site where
  startCall _ site := (site, 0)
  read target site := site.read target
  command target state site := site.command target state
  startSave site := (site, 1)
  save deviceId state site := site.save deviceId state

/-- A site as what is outside the engine. -/
def world : World Site where
  backend := backend
  fetch request site := site.fetch request

/-- Files a rule. -/
def fileRule (write : RuleWrite) (site : Site) : Except StorageError Site := do
  return { site with database := ← site.database.fileRule write }

end Site

namespace Installation

/-- How the devices of an installation are controlled. -/
def controlOf (settings : Settings) : DeviceControl :=
  if Settings.meansHttp settings.mode then
    .hosts (if settings.deviceApiKey.isEmpty then none else some settings.deviceApiKey)
  else .simulated {}

/-- Why an installation does not start. -/
inductive StartError
  /-- The host of a sensor is no text. -/
  | badSensorHost
  /-- The service has no name. -/
  | noName
  | unknownLogLevel
  | storage (error : StorageError)
  deriving DecidableEq, Repr

/-- The sensor of a room at the host that the room names. -/
def remoteSensor (room : Room) : Except StartError RoomSensor :=
  match room.sensorHost with
  | .text host => .ok (.remote room.name host)
  | _ => .error .badSensorHost

/-- The sensors of an installation: those of the hosts that rooms name, or one simulated sensor for
    every room. -/
def sensorsOf (settings : Settings) (rooms : List Room) : Except StartError (List RoomSensor) :=
  if Settings.meansHttp settings.sensorMode then
    (rooms.filter (·.sensorHost.isTrue)).mapM remoteSensor
  else
    .ok ((rooms.map (·.name)).eraseDups.map fun room => .simulated { room })

/-- What the service of an installation runs with. -/
def setup (settings : Settings) (time : String) : Setup Site :=
  { world := Site.world, saveRule := Site.fileRule, appName := settings.appName
    mode := settings.mode, time, sensorsExpected := true
    zoneError :=
      match TimeZone.find settings.timezone with
      | .ok _ => none
      | .error e => some e }

/-- Starts an installation. -/
def start (settings : Settings) (rooms : List Room) (database : Database)
    (network : HttpRequest → HttpReply) : Except StartError (Service Site) := do
  let sensors ← sensorsOf settings rooms
  if settings.appName.isEmpty then throw .noName
  if !Settings.namesLogLevel settings.logLevel then throw .unknownLogLevel
  let database := database.init
  let records ← database.states.mapError .storage
  let rules ← database.rules.mapError .storage
  let engine : Engine Site :=
    { directory := .ofRooms rooms, range := settings.setPointRange, records
      outside := { control := controlOf settings, database, network } }
  return {
    engine := (engine.load rules.activeTexts).1
    live := .ofRooms (sensors.map (·.room))
    sensors }

end Installation

namespace Service

variable {σ : Type}

/-- All rooms tick a number of times. -/
def rounds (setup : Setup σ) (service : Service σ) (count : Nat) : Service σ :=
  let (engine, live) := service.engine.rounds setup.world service.live service.sensors count
  { service with engine, live }

/-- One room ticks. -/
def tick (setup : Setup σ) (service : Service σ) (sensor : RoomSensor) : Service σ :=
  let (engine, live) := service.engine.tick setup.world service.live sensor
  { service with engine, live }

/-- The sensor of a room. -/
def sensor? (service : Service σ) (room : String) : Option RoomSensor :=
  service.sensors.find? fun sensor => sensor.room == room

end Service

end HomeAutomation
