/-
  HomeAutomation.Proofs.Device.HouseCalls

  What calls on a house do.  Of the faults that are scripted for a device, each
  call on it takes the first.  A device that can be read tells its state; a
  command that is accepted sets it, and nothing else touches a device.
-/

import HomeAutomation.Device.House
import HomeAutomation.Proofs.Engine.Visit
import HomeAutomation.Proofs.Table

namespace HomeAutomation.House

-- ============================================================================
-- Scripts of faults
-- ============================================================================

section Faults

variable {α : Type} (scripts : Table (List (Option α))) (deviceId : String)

/-- The first of a device's scripted faults is taken, and the others stay. -/
theorem takeFault_self :
    (takeFault scripts deviceId).2 = ((scripts.get? deviceId).getD []).headD none ∧
      ((takeFault scripts deviceId).1.get? deviceId).getD []
        = ((scripts.get? deviceId).getD []).tail := by
  unfold takeFault
  split
  · rename_i fault rest found
    rw [found, Table.get?_set_self]
    exact ⟨rfl, rfl⟩
  · rename_i none_left
    have nothing : (scripts.get? deviceId).getD [] = [] := by
      cases found : scripts.get? deviceId with
      | none => rfl
      | some script =>
        cases script with
        | nil => rfl
        | cons fault rest => exact absurd found (none_left fault rest)
    rw [nothing]
    exact ⟨rfl, rfl⟩

theorem get?_takeFault_ne {d : String} (h : d ≠ deviceId) :
    (takeFault scripts deviceId).1.get? d = scripts.get? d := by
  unfold takeFault
  split
  · exact Table.get?_set_ne _ _ h
  · rfl

end Faults

-- ============================================================================
-- Calls that read
-- ============================================================================

variable (house : House) (target : DeviceTarget) (state : DeviceState)

/-- A call that reads takes what is scripted for it. -/
theorem read_eq :
    house.read target
      = ({ house.endCall (.read target) with
            readFaults := (takeFault house.readFaults target.deviceId).1 },
          match (takeFault house.readFaults target.deviceId).2 with
          | some reason => .failed reason
          | none => house.devices.read target.deviceId) := by
  have faults : (house.endCall (.read target)).readFaults = house.readFaults := rfl
  unfold read
  dsimp only
  rw [faults]
  obtain ⟨rest, fault⟩ := takeFault house.readFaults target.deviceId
  cases fault <;> rfl

theorem devices_read : (house.read target).1.devices = house.devices := by
  rw [read_eq]
  rfl

/-- A device that tells its state tells the truth. -/
theorem stateBefore_read {recorded : Option DeviceState}
    (coherent : recorded = house.devices.states.get? target.deviceId) :
    (house.read target).2.stateBefore recorded = recorded := by
  unfold read
  dsimp only
  split
  · rfl
  · change (house.devices.read target.deviceId).stateBefore recorded = recorded
    rw [SimulatedDevices.read, coherent]
    cases house.devices.states.get? target.deviceId <;> rfl

-- ============================================================================
-- Calls that command
-- ============================================================================

/-- A device accepts a command and takes on the state, or it does neither. -/
theorem command_cases :
    ((house.command target state).2.isAccepted = true ∧
        (house.command target state).1.devices.states
          = house.devices.states.set target.deviceId state) ∨
      ((house.command target state).2.isAccepted = false ∧
        (house.command target state).1.devices.states = house.devices.states) := by
  unfold command
  dsimp only
  split
  · exact .inr ⟨rfl, rfl⟩
  · exact .inr ⟨rfl, rfl⟩
  · unfold SimulatedDevices.command
    dsimp only
    split
    · exact .inr ⟨rfl, rfl⟩
    · exact .inl ⟨rfl, rfl⟩

/-- The simulated devices after a command, if none is to be refused. -/
def accepting (deviceId : String) : SimulatedDevices where
  states := house.devices.states.set deviceId state
  commands := house.devices.commands ++ [(deviceId, state)]

/-- A call that commands takes what is scripted for it.  If nothing is, the device accepts, unless
    the house refuses. -/
theorem command_eq (obliging : house.devices.refusals = 0) :
    house.command target state
      = ({ house.endCall (.command target state) with
            commandFaults := (takeFault house.commandFaults target.deviceId).1
            devices :=
              if (takeFault house.commandFaults target.deviceId).2.isSome then house.devices
              else house.accepting state target.deviceId },
          match (takeFault house.commandFaults target.deviceId).2 with
          | some (.breaks reason) => .failed reason
          | some (.refuses status message) => .answered { success := false, status, message }
          | none => .answered (SimulatedDevices.accepted state)) := by
  have faults : (house.endCall (.command target state)).commandFaults = house.commandFaults := rfl
  have devices : (house.endCall (.command target state)).devices = house.devices := rfl
  have accepts : house.devices.command target.deviceId state
      = (house.accepting state target.deviceId, SimulatedDevices.accepted state) := by
    unfold SimulatedDevices.command
    rw [obliging]
    rfl
  unfold command
  dsimp only
  rw [faults, devices, accepts]
  obtain ⟨rest, fault⟩ := takeFault house.commandFaults target.deviceId
  cases fault with
  | some fault => cases fault <;> rfl
  | none => rfl

theorem refusals_command (obliging : house.devices.refusals = 0) :
    (house.command target state).1.devices.refusals = 0 := by
  rw [house.command_eq target state obliging]
  dsimp only
  split
  · exact obliging
  · rfl

-- ============================================================================
-- Saves
-- ============================================================================

theorem devices_save (deviceId : String) :
    (house.save deviceId state).1.devices = house.devices := by
  unfold save
  split
  · split <;> rfl
  · rfl

end HomeAutomation.House
