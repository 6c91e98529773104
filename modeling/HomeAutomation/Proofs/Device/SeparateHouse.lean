/-
  HomeAutomation.Proofs.Device.SeparateHouse

  The devices of a house, apart from each other.  What a device answers depends
  on its own state, its own scripts and the number of calls on it, unless the
  house as a whole has been told to refuse the commands to come, whichever
  device they go to.  Without such refusals a house is seen as devices that each
  work by a `SimulatedDevice`, however saving their states fares.
-/

import HomeAutomation.Proofs.Device.HouseCalls
import HomeAutomation.Proofs.Engine.SeparateDevices
import HomeAutomation.Proofs.Engine.View

namespace HomeAutomation

-- ============================================================================
-- Scripts
-- ============================================================================

/-- What is to happen to the calls on one device. -/
structure DeviceScript where
  commands : List (Option CommandFault) := []
  /-- Why calls that read the device fail. -/
  reads : List (Option String) := []
  /-- How often a call suspends, by the number of calls before. -/
  suspensions : Nat → Nat := fun _ => 0

/-- Gives a device another script, in place of all that was scripted for it. -/
def House.rescript (house : House) (deviceId : String) (script : DeviceScript) : House :=
  { (house.scriptCommands deviceId script.commands).scriptReads deviceId script.reads with
    suspensions := fun d => if d = deviceId then script.suspensions else house.suspensions d }

/-- What is to happen to the saves of states, by their numbers. -/
structure MirrorScript where
  /-- How often a save suspends. -/
  suspensions : Nat → Nat := fun _ => 0
  /-- Whether a save fails. -/
  fails : Nat → Bool := fun _ => false

/-- A house with the numbers of saves that were started and that have ended. -/
structure MirroredHouse where
  house : House
  started : Nat := 0
  ended : Nat := 0

/-- A house whose saves do as a script says. -/
def MirrorScript.backend (script : MirrorScript) : Backend MirroredHouse where
  startCall call s :=
    let (house, pauses) := s.house.startCall call
    ({ s with house }, pauses)
  read target s :=
    let (house, reply) := s.house.read target
    ({ s with house }, reply)
  command target state s :=
    let (house, reply) := s.house.command target state
    ({ s with house }, reply)
  startSave s := ({ s with started := s.started + 1 }, script.suspensions s.started)
  save deviceId state s :=
    let (house, saved) := { s.house with savesFail := script.fails s.ended }.save deviceId state
    ({ s with house, ended := s.ended + 1 }, saved)

-- ============================================================================
-- One device
-- ============================================================================

/-- A simulated device with its scripts and the calls on it. -/
@[ext]
structure SimulatedDevice where
  state : Option DeviceState
  commandFaults : List (Option CommandFault)
  readFaults : List (Option String)
  suspensions : Nat → Nat
  started : Nat
  calls : List DeviceCall

namespace SimulatedDevice

/-- Starts a call. -/
def startCall (device : SimulatedDevice) : SimulatedDevice × Nat :=
  ({ device with started := device.started + 1 }, device.suspensions device.started)

/-- Ends a call that reads the device. -/
def read (target : DeviceTarget) (device : SimulatedDevice) : SimulatedDevice × ReadReply :=
  ({ device with
      readFaults := device.readFaults.tail
      calls := device.calls ++ [.read target] },
    match device.readFaults.headD none with
    | some reason => .failed reason
    | none => device.state.elim .unknown .state)

/-- Ends a call that commands the device. -/
def command (target : DeviceTarget) (state : DeviceState) (device : SimulatedDevice) :
    SimulatedDevice × CommandReply :=
  let called := { device with
    commandFaults := device.commandFaults.tail
    calls := device.calls ++ [.command target state] }
  match device.commandFaults.headD none with
  | some (.breaks reason) => (called, .failed reason)
  | some (.refuses status message) => (called, .answered { success := false, status, message })
  | none =>
    ({ called with state := some state }, .answered (SimulatedDevices.accepted state))

/-- How a simulated device works. -/
def behavior : DeviceBehavior SimulatedDevice where
  startCall _ device := device.startCall
  read := read
  command := command
  save _ device := (device, true)

end SimulatedDevice

-- ============================================================================
-- The devices of a house
-- ============================================================================

namespace House

/-- The calls on a device that have ended. -/
def callsTo (house : House) (deviceId : String) : List DeviceCall :=
  house.calls.filter (·.deviceId = deviceId)

/-- A device of a house. -/
def device (house : House) (deviceId : String) : SimulatedDevice where
  state := house.devices.states.get? deviceId
  commandFaults := (house.commandFaults.get? deviceId).getD []
  readFaults := (house.readFaults.get? deviceId).getD []
  suspensions := house.suspensions deviceId
  started := house.startedOn deviceId
  calls := house.callsTo deviceId

variable (house : House) (target : DeviceTarget) (state : DeviceState)

theorem callsTo_endCall_self (call : DeviceCall) :
    (house.endCall call).callsTo call.deviceId = house.callsTo call.deviceId ++ [call] := by
  simp [callsTo, endCall]

theorem callsTo_endCall_ne {call : DeviceCall} {d : String} (h : d ≠ call.deviceId) :
    (house.endCall call).callsTo d = house.callsTo d := by
  simp [callsTo, endCall, Ne.symm h]

theorem device_rescript_ne {deviceId d : String} (script : DeviceScript) (h : d ≠ deviceId) :
    (house.rescript deviceId script).device d = house.device d :=
  SimulatedDevice.ext rfl (congrArg (Option.getD · []) (Table.get?_set_ne _ _ h))
    (congrArg (Option.getD · []) (Table.get?_set_ne _ _ h)) (if_neg h) rfl rfl

theorem device_startCall_self (call : DeviceCall) :
    (house.startCall call).1.device call.deviceId = (house.device call.deviceId).startCall.1 :=
  SimulatedDevice.ext rfl rfl rfl rfl
    (congrArg (Option.getD · 0) (Table.get?_set_self ..)) rfl

theorem device_startCall_ne {call : DeviceCall} {d : String} (h : d ≠ call.deviceId) :
    (house.startCall call).1.device d = house.device d :=
  SimulatedDevice.ext rfl rfl rfl rfl
    (congrArg (Option.getD · 0) (Table.get?_set_ne _ _ h)) rfl

theorem device_read_self :
    (house.read target).1.device target.deviceId
        = ((house.device target.deviceId).read target).1 ∧
      (house.read target).2 = ((house.device target.deviceId).read target).2 := by
  rw [read_eq]
  refine ⟨SimulatedDevice.ext rfl rfl (takeFault_self ..).2 rfl rfl
    (house.callsTo_endCall_self (.read target)), ?_⟩
  rw [(takeFault_self ..).1]
  unfold device SimulatedDevice.read SimulatedDevices.read
  dsimp only
  cases ((house.readFaults.get? target.deviceId).getD []).headD none with
  | some reason => rfl
  | none => cases house.devices.states.get? target.deviceId <;> rfl

theorem device_read_ne {d : String} (h : d ≠ target.deviceId) :
    (house.read target).1.device d = house.device d := by
  rw [read_eq]
  exact SimulatedDevice.ext rfl rfl
    (congrArg (Option.getD · []) (get?_takeFault_ne _ _ h)) rfl rfl (house.callsTo_endCall_ne h)

theorem device_command_self (obliging : house.devices.refusals = 0) :
    (house.command target state).1.device target.deviceId
        = ((house.device target.deviceId).command target state).1 ∧
      (house.command target state).2
        = ((house.device target.deviceId).command target state).2 := by
  obtain ⟨fault, rest⟩ := takeFault_self house.commandFaults target.deviceId
  have calls := house.callsTo_endCall_self (.command target state)
  rw [house.command_eq target state obliging, fault]
  unfold SimulatedDevice.command
  have same : (house.device target.deviceId).commandFaults
      = (house.commandFaults.get? target.deviceId).getD [] := rfl
  rw [same]
  cases ((house.commandFaults.get? target.deviceId).getD []).headD none with
  | some fault => cases fault <;> exact ⟨SimulatedDevice.ext rfl rest rfl rfl rfl calls, rfl⟩
  | none =>
    exact ⟨SimulatedDevice.ext (Table.get?_set_self ..) rest rfl rfl rfl calls, rfl⟩

theorem device_command_ne (obliging : house.devices.refusals = 0) {d : String}
    (h : d ≠ target.deviceId) : (house.command target state).1.device d = house.device d := by
  rw [house.command_eq target state obliging]
  refine SimulatedDevice.ext ?_ (congrArg (Option.getD · []) (get?_takeFault_ne _ _ h)) rfl rfl rfl
    (house.callsTo_endCall_ne h)
  unfold device
  dsimp only
  split
  · rfl
  · exact Table.get?_set_ne _ _ h

theorem device_save (deviceId d : String) :
    (house.save deviceId state).1.device d = house.device d := by
  unfold save
  split
  · split <;> rfl
  · rfl

end House

-- ============================================================================
-- The view
-- ============================================================================

namespace MirroredHouse

/-- A house as separate devices. -/
def apart (s : MirroredHouse) : Devices SimulatedDevice where
  device := s.house.device
  saves := s.started

/-- The house does not refuse commands whichever device they go to. -/
def Obliging (s : MirroredHouse) : Prop := s.house.devices.refusals = 0

/-- One device has changed. -/
theorem apart_eq_put {s after : MirroredHouse} {deviceId : String} {device : SimulatedDevice}
    (here : after.house.device deviceId = device)
    (elsewhere : ∀ d ≠ deviceId, after.house.device d = s.house.device d)
    (saves : after.started = s.started) : after.apart = s.apart.put deviceId device := by
  have devices : after.house.device
      = fun d => if d = deviceId then device else s.house.device d := by
    funext d
    split
    · rename_i same
      rw [same, here]
    · rename_i other
      exact elsewhere d other
  rw [apart, devices, saves]
  rfl

/-- A house that does not refuse commands is seen as separate devices. -/
theorem seenAs (script : MirrorScript) :
    script.backend.SeenAs (SimulatedDevice.behavior.backend script.suspensions) apart Obliging where
  startCall call s obliging := by
    have same : (script.backend.startCall call s).1.apart = s.apart.put call.deviceId _ :=
      apart_eq_put (s.house.device_startCall_self call) (fun _ => s.house.device_startCall_ne) rfl
    exact ⟨Prod.ext same.symm rfl, obliging⟩
  read target s obliging := by
    obtain ⟨here, reply⟩ := s.house.device_read_self target
    have same : (script.backend.read target s).1.apart = s.apart.put target.deviceId _ :=
      apart_eq_put here (fun _ => s.house.device_read_ne target) rfl
    refine ⟨Prod.ext same.symm reply.symm, ?_⟩
    exact (congrArg SimulatedDevices.refusals (s.house.devices_read target)).trans obliging
  command target state s obliging := by
    obtain ⟨here, reply⟩ := s.house.device_command_self target state obliging
    have same : (script.backend.command target state s).1.apart = s.apart.put target.deviceId _ :=
      apart_eq_put here (fun _ => s.house.device_command_ne target state obliging) rfl
    exact ⟨Prod.ext same.symm reply.symm, s.house.refusals_command target state obliging⟩
  startSave s obliging := ⟨rfl, obliging⟩
  save deviceId state s obliging := by
    let house : House := { s.house with savesFail := script.fails s.ended }
    have same : (script.backend.save deviceId state s).1.apart
        = s.apart.put deviceId (s.house.device deviceId) :=
      apart_eq_put (house.device_save state deviceId deviceId)
        (fun d _ => house.device_save state deviceId d) rfl
    have devices : (house.save deviceId state).1.devices = s.house.devices :=
      house.devices_save state deviceId
    exact ⟨same.symm, (congrArg SimulatedDevices.refusals devices).trans obliging⟩

end MirroredHouse

end HomeAutomation
