/-
  HomeAutomation.Device.Backend

  How the engine reaches devices and the store of their states. A backend works on a state of its
  own: simulated devices, a scripted house, a network. Every call may suspend a number of times
  before it is answered; reading and commanding may fail in any way, and a failed save is
  remembered by nobody but the backend.
-/
import HomeAutomation.Device.Directory
import HomeAutomation.Device.State
import HomeAutomation.Json.Writer

namespace HomeAutomation

/-- What a device control answers to a command. Devices word their messages freely, so a message is
    any value; null is none. -/
structure ControlResponse where
  success : Bool
  status : Int
  data : Json := .null
  message : Json := .null
  deriving Repr, Inhabited

/-- What reading a device gives. -/
inductive ReadReply
  | state (state : DeviceState)
  | unknown
  | failed (reason : String)
  deriving Repr, Inhabited

/-- What commanding a device gives. -/
inductive CommandReply
  | answered (response : ControlResponse)
  | failed (reason : String)
  deriving Repr, Inhabited

/-- A call to a device. -/
inductive DeviceCall
  | read (target : DeviceTarget)
  | command (target : DeviceTarget) (state : DeviceState)
  deriving Repr

/-- The device that a call goes to. -/
def DeviceCall.deviceId : DeviceCall → String
  | read target => target.deviceId
  | command target _ => target.deviceId

/-- How devices and the store of their states are reached. -/
structure Backend (σ : Type) where
  /-- Starts a call; gives how often it suspends. -/
  startCall : DeviceCall → σ → σ × Nat
  /-- Ends a call that reads a device. -/
  read : DeviceTarget → σ → σ × ReadReply
  /-- Ends a call that commands a device. -/
  command : DeviceTarget → DeviceState → σ → σ × CommandReply
  /-- Starts saving a state in the store; gives how often it suspends. -/
  startSave : σ → σ × Nat
  /-- Ends saving a state in the store; tells whether the state was saved. -/
  save : String → DeviceState → σ → σ × Bool

namespace ControlResponse

/-- Why a rejected command failed, as far as the response says. -/
def reason (response : ControlResponse) (deviceId : String) : String :=
  if response.message.isTrue then response.message.label
  else "Command to " ++ deviceId ++ " failed"

end ControlResponse

end HomeAutomation
