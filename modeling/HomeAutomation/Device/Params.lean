/-
  HomeAutomation.Device.Params

  Parameters by type of device. A command keeps those parameters that its device understands: an air
  conditioner a temperature and a mode, a light a brightness and a color, a fan a speed, which may
  be given as a number. A number that a device has no use for gives a warning.
-/
import HomeAutomation.Device.State
import HomeAutomation.Rule.Action
import HomeAutomation.Text.Quoted

namespace HomeAutomation

/-- What is set on a device besides its power. -/
inductive DeviceParams
  | ac (temperature : Option Double) (mode : Option String)
  | light (brightness : Option Int) (color : Option String)
  | fan (speed : Option String)
  deriving DecidableEq, Repr

namespace DeviceParams

/-- The state that a device is to have. -/
def desiredState (power : Bool) : DeviceParams → DeviceState
  | ac temperature mode => { power, temperature, mode := mode.map .text }
  | light brightness color => { power, brightness, mode := color.map .text }
  | fan speed => { power, mode := speed.map .text }

/-- The speed of a fan: the mode, or else the temperature as a number. -/
def fanSpeed (a : ActionSpec) : Option String :=
  match a.mode with
  | some mode => some mode
  | none => a.temperature.map Double.brief

/-- The parameters of a command. -/
def ofSpec (a : ActionSpec) : DeviceParams :=
  match a.device with
  | .ac => ac a.temperature a.mode
  | .light => light a.brightness a.mode
  | .fan => fan (fanSpeed a)

/-- Warnings about numbers in a command that its device has no use for. -/
def warnings (a : ActionSpec) : List String :=
  match a.device, a.temperature, a.mode with
  | .light, some t, _ =>
    ["light action ignores numeric parameter " ++ t.brief ++ " (use <n>% for brightness)"]
  | .fan, some t, some speed =>
    ["fan action ignores numeric parameter " ++ t.brief ++ " (speed is " ++ Text.quote speed ++ ")"]
  | _, _, _ => []

end DeviceParams

end HomeAutomation
