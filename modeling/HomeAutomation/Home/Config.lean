/-
  HomeAutomation.Home.Config

  The home configuration: a JSON object that lists rooms with their devices. A configuration file
  that is missing, is no JSON or lacks a name that is needed gives way to a built-in home; values of
  a wrong kind, or too many within each other, are reported to the caller.
-/
import HomeAutomation.Device.Directory
import HomeAutomation.Json.Reader
import HomeAutomation.Json.Writer

namespace HomeAutomation

/-- Why a value is no home configuration. -/
inductive ConfigError
  /-- An object has no field of this name. -/
  | missingField (key : String)
  /-- A value is used as an object or a text and is neither. -/
  | notAnObject
  /-- A value is used as a list or looked into by name and is of another kind. -/
  | wrongKind
  /-- Too many values stand within each other. -/
  | tooDeep
  deriving DecidableEq, Repr

namespace HomeConfig

/-- The values that a value lists: the items of a list, the keys of an object, the characters of
    a text. -/
def listed : Json → Except ConfigError (List Json)
  | .list items => .ok items
  | .object fields => .ok (fields.map fun field => .text field.1)
  | .text value => .ok (value.toList.map fun c => .text (String.ofList [c]))
  | _ => .error .wrongKind

/-- The value of a field that has to be there. -/
def required (value : Json) (key : String) : Except ConfigError Json :=
  match value with
  | .object fields =>
    match Table.get? fields key with
    | some given => .ok given
    | none => .error (.missingField key)
  | _ => .error .wrongKind

/-- The value of a field of an object, or what stands in for it. -/
def fieldOr (value : Json) (key : String) (standIn : Json) : Except ConfigError Json :=
  match value with
  | .object fields => .ok ((Table.get? fields key).getD standIn)
  | _ => .error .notAnObject

/-- A value that has to be a text. -/
def textOf : Json → Except ConfigError String
  | .text value => .ok value
  | _ => .error .notAnObject

/-- Reads a device of a room. A device without host of its own is at the host of the room. -/
def readDevice (room : String) (roomHost : Json) (value : Json) :
    Except ConfigError DeviceTarget := do
  let deviceId ← required value "device_id"
  let ownHost ← fieldOr value "host" .null
  let deviceType ← textOf (← required value "type")
  return {
    deviceId := deviceId.label
    host := if ownHost.isTrue then ownHost else roomHost
    deviceType := Text.lower deviceType
    location := room }

/-- Reads a room. -/
def readRoom (value : Json) : Except ConfigError Room := do
  let name := Text.normalize (← textOf (← required value "name"))
  let sensorHost ← fieldOr value "sensor_host" (.text "")
  let devices ← listed (← fieldOr value "devices" (.list []))
  return { name, sensorHost, devices := ← devices.mapM (readDevice name sensorHost) }

/-- Reads the rooms of a home configuration. -/
def readRooms (value : Json) : Except ConfigError (List Room) := do
  let rooms ← listed (← fieldOr value "rooms" (.list []))
  rooms.mapM readRoom

/-! ## Homes that need no file -/

/-- A device at the host of its room. -/
def device (deviceId host deviceType location : String) : DeviceTarget :=
  ⟨deviceId, .text host, deviceType, location⟩

/-- The home that stands in for a configuration that cannot be used. -/
def builtIn : List Room :=
  let host := "127.0.0.1:5000"
  [⟨"living room", .text host,
    [device "ac-living-room" host "ac" "living room",
     device "light-living-room" host "light" "living room"]⟩]

/-- The home of an installation that names no configuration file. -/
def bundled : List Room :=
  let living := "192.168.0.121:5000"
  let kitchen := "192.168.0.122:5000"
  let bedroom := "192.168.0.123:5000"
  [⟨"living room", .text living,
    [device "ac-living-room" living "ac" "living room",
     device "light-living-room" living "light" "living room",
     device "fan-living-room" living "fan" "living room"]⟩,
   ⟨"kitchen", .text kitchen, [device "light-kitchen" kitchen "light" "kitchen"]⟩,
   ⟨"bedroom", .text bedroom,
    [device "ac-bedroom" bedroom "ac" "bedroom", device "fan-bedroom" bedroom "fan" "bedroom"]⟩]

/-- Where a home configuration comes from. -/
inductive Source
  /-- No file is named. -/
  | bundled
  /-- The named file cannot be read. -/
  | unreadable
  /-- The text of the named file. -/
  | content (source : String)
  deriving Repr

/-- Loads the rooms of a home. -/
def load : Source → Except ConfigError (List Room)
  | .bundled => .ok HomeConfig.bundled
  | .unreadable => .ok builtIn
  | .content source =>
    match Json.read source with
    | .error ⟨.tooDeep, _⟩ => .error .tooDeep
    | .error _ => .ok builtIn
    | .ok value =>
      match readRooms value with
      | .error (.missingField _) => .ok builtIn
      | result => result

end HomeConfig

end HomeAutomation
