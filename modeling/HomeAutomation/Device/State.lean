/-
  HomeAutomation.Device.State

  States of devices, as they are commanded, read back and recorded. A state has a power and, as far
  as they matter to the device, a temperature, a mode and a brightness. Devices report states as
  JSON objects whose fields nobody has checked: the mode is kept as it is, the other fields are
  converted.
-/
import HomeAutomation.Json.Value

namespace HomeAutomation

/-- The state of a device. -/
structure DeviceState where
  power : Bool
  temperature : Option Double := none
  /-- Any value but null. -/
  mode : Option Json := none
  brightness : Option Int := none
  deriving Repr, Inhabited

namespace DeviceState

/-- Equality of optional values under an equality of values. -/
def sameOption {α : Type} (eq : α → α → Bool) : Option α → Option α → Bool
  | none, none => true
  | some a, some b => eq a b
  | _, _ => false

/-- Equality of states, part by part, numbers by what they count. -/
def same (a b : DeviceState) : Bool :=
  a.power == b.power && sameOption Double.eq a.temperature b.temperature &&
    sameOption Json.same a.mode b.mode && a.brightness == b.brightness

/-- The fields of the object that a state is reported by; what is absent has no field. -/
def payloadFields (s : DeviceState) : Table Json :=
  [("power", .bool s.power)]
    ++ (s.temperature.map fun t => ("temperature", Json.double t)).toList
    ++ (s.mode.map fun mode => ("mode", mode)).toList
    ++ (s.brightness.map fun level => ("brightness", Json.integer level)).toList

/-- The object that a state is reported by. -/
def payload (s : DeviceState) : Json := .object s.payloadFields

/-- Converts the value of a field, an absent or null field giving none. -/
def convertField {α : Type} (convert : Json → Except Json.ConversionError α) (value : Json) :
    Except Json.ConversionError (Option α) :=
  match value.nonNull? with
  | some given => (convert given).map some
  | none => .ok none

/-- Reads the fields of the object that a state is reported by. A missing power is off. -/
def ofPayload (fields : Table Json) : Except Json.ConversionError DeviceState := do
  let get (key : String) : Json := (fields.get? key).getD .null
  let temperature ← convertField Json.toDouble (get "temperature")
  let brightness ← convertField Json.toInteger (get "brightness")
  return { power := (get "power").isTrue, temperature, mode := (get "mode").nonNull?, brightness }

end DeviceState

end HomeAutomation
