/-
  HomeAutomation.Device.Directory

  The map from rooms to devices. Rooms are found by the normal form of their names; of the rooms
  with one name the last counts, in the place of the first, and within a room the first device of
  a type answers for it.
-/
import HomeAutomation.Json.Value
import HomeAutomation.Table
import HomeAutomation.Text.Normal

namespace HomeAutomation

/-- A device as the home configuration names it. A host is what the configuration gives, usually
    a text. -/
structure DeviceTarget where
  deviceId : String
  host : Json
  deviceType : String
  location : String
  deriving Repr, Inhabited

/-- A room with its sensor and its devices. -/
structure Room where
  name : String
  sensorHost : Json
  devices : List DeviceTarget
  deriving Repr, Inhabited

/-- No device of the type is mapped at the location. -/
structure DeviceNotFound where
  location : String
  deviceType : String
  deriving DecidableEq, Repr

/-- The message about a device that is not mapped. -/
def DeviceNotFound.message (e : DeviceNotFound) : String :=
  "No " ++ e.deviceType ++ " device mapped in '" ++ e.location ++ "'"

/-- Rooms by the normal forms of their names, in the order in which the names first occurred. -/
structure Directory where
  entries : Table Room
  deriving Repr, Inhabited

namespace Directory

/-- The directory without rooms. -/
def empty : Directory := ⟨[]⟩

/-- Enters a room; a room of the same name is replaced in its place. -/
def insert (directory : Directory) (room : Room) : Directory :=
  ⟨directory.entries.set (Text.normalize room.name) room⟩

/-- The directory of a list of rooms. -/
def ofRooms (rooms : List Room) : Directory := rooms.foldl insert empty

/-- The rooms that count, in order. -/
def rooms (directory : Directory) : List Room := directory.entries.values

/-- The room of a name. -/
def room? (directory : Directory) (name : String) : Option Room :=
  directory.entries.get? (Text.normalize name)

/-- The device of a type at a location. -/
def resolve (directory : Directory) (location deviceType : String) :
    Except DeviceNotFound DeviceTarget :=
  match (directory.room? location).bind fun room =>
      room.devices.find? fun device => device.deviceType == deviceType with
  | some device => .ok device
  | none => .error ⟨location, deviceType⟩

end Directory

end HomeAutomation
