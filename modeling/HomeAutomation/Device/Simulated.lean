/-
  HomeAutomation.Device.Simulated

  Devices that exist only here. A device takes on every state that it is commanded to have, until it
  is told to refuse commands; a device that was never commanded has no state.
-/
import HomeAutomation.Device.Backend

namespace HomeAutomation

/-- Simulated devices. -/
structure SimulatedDevices where
  states : Table DeviceState := []
  /-- How many of the next commands are refused. -/
  refusals : Nat := 0
  /-- All commands so far, also the refused ones. -/
  commands : List (String × DeviceState) := []
  deriving Repr, Inhabited

namespace SimulatedDevices

/-- The answer of a device that takes on a state. -/
def accepted (state : DeviceState) : ControlResponse :=
  { success := true, status := 200, data := state.payload }

/-- The answer of a device that refuses a command. -/
def refused : ControlResponse :=
  { success := false, status := 503, message := .text "Simulated failure" }

/-- Reads a device. -/
def read (devices : SimulatedDevices) (deviceId : String) : ReadReply :=
  match devices.states.get? deviceId with
  | some state => .state state
  | none => .unknown

/-- Commands a device. -/
def command (devices : SimulatedDevices) (deviceId : String) (state : DeviceState) :
    SimulatedDevices × ControlResponse :=
  let commands := devices.commands ++ [(deviceId, state)]
  match devices.refusals with
  | refusals + 1 => ({ devices with commands, refusals }, refused)
  | 0 => ({ devices with commands, states := devices.states.set deviceId state }, accepted state)

/-- Simulated devices as a backend: no call suspends, and states are not stored. -/
def backend : Backend SimulatedDevices where
  startCall _ devices := (devices, 0)
  read target devices := (devices, devices.read target.deviceId)
  command target state devices :=
    let (devices, response) := devices.command target.deviceId state
    (devices, .answered response)
  startSave devices := (devices, 0)
  save _ _ devices := (devices, false)

end SimulatedDevices

end HomeAutomation
