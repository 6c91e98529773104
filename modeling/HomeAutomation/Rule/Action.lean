/-
  HomeAutomation.Rule.Action

  What a rule does: the device it addresses by type and location, the power it gives it, and the
  parameters of the command.
-/
import HomeAutomation.Number.Layout

namespace HomeAutomation

/-- The types of devices that rules command. -/
inductive DeviceKind
  | ac
  | light
  | fan
  deriving DecidableEq, Repr

namespace DeviceKind

/-- The name of a type, by which the home configuration maps devices. -/
def name : DeviceKind → String
  | ac => "ac"
  | light => "light"
  | fan => "fan"

/-- The type of a name. -/
def ofName? : String → Option DeviceKind
  | "ac" => some ac
  | "light" => some light
  | "fan" => some fan
  | _ => none

/-- The message about a name that is no type. -/
def unsupportedMessage (name : String) : String := "Unsupported device type: " ++ name

end DeviceKind

/-- The command of a rule, as its text gives it. -/
structure ActionSpec where
  device : DeviceKind
  location : String
  power : Bool
  temperature : Option Double := none
  mode : Option String := none
  /-- Percent of full brightness, for lights. -/
  brightness : Option Int := none
  /-- Parameters that found no other place, in their order. -/
  extras : List String := []
  deriving DecidableEq, Repr

namespace ActionSpec

/-- The word for switching on or off. -/
def powerWord (power : Bool) : String := if power then "on" else "off"

/-- The words of a command: location, device, power, then brightness, temperature, mode and the
    remaining parameters as far as they are given. -/
def parts (a : ActionSpec) : List String :=
  [a.location, a.device.name, powerWord a.power]
    ++ (a.brightness.map fun level => toString level ++ "%").toList
    ++ (a.temperature.map Double.brief).toList
    ++ (a.mode.filter (· ≠ "")).toList
    ++ a.extras

/-- The command in words. -/
def describe (a : ActionSpec) : String := " ".intercalate a.parts

end ActionSpec

end HomeAutomation
