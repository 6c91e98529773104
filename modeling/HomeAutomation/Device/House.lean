/-
  HomeAutomation.Device.House

  A house to try the engine in. Its devices are simulated; every device may be given a script of
  faults for the calls to come, and the house says how often each call on a device suspends. It
  keeps an account of the calls: in which order they came and how many were ever in progress at once
  on one device. It also keeps rules on file.
-/
import HomeAutomation.Device.Simulated
import HomeAutomation.Storage.Rules

namespace HomeAutomation

/-- What goes wrong with a command. In both cases the device keeps its state. -/
inductive CommandFault
  /-- The control fails. -/
  | breaks (reason : String)
  /-- The device answers that it refuses. -/
  | refuses (status : Int) (message : Json)
  deriving Repr

/-- The house. In a script `none` stands for a call without fault, as does the end of the script. -/
structure House where
  devices : SimulatedDevices := {}
  commandFaults : Table (List (Option CommandFault)) := []
  /-- Why calls that read a device fail. -/
  readFaults : Table (List (Option String)) := []
  /-- How often a call suspends, by its device and the number of calls on it before. -/
  suspensions : String → Nat → Nat := fun _ _ => 0
  /-- How many calls were started on a device. -/
  started : Table Nat := []
  /-- The calls that have ended, in order. -/
  calls : List DeviceCall := []
  /-- How many calls are in progress on a device. -/
  inProgress : Table Nat := []
  /-- The most calls that were ever in progress at once on one device. -/
  peak : Nat := 0
  /-- The store of the states that were saved, unless the house has none. -/
  stored : Option (Table DeviceState) := some []
  /-- Whether saving a state fails. -/
  savesFail : Bool := false
  /-- The rules on file. -/
  rules : RuleRows := []
  deriving Inhabited

namespace House

/-! ## Setting up -/

/-- Gives a device a script for the commands to come. -/
def scriptCommands (house : House) (deviceId : String) (script : List (Option CommandFault)) :
    House :=
  { house with commandFaults := house.commandFaults.set deviceId script }

/-- Gives a device a script for the readings to come. -/
def scriptReads (house : House) (deviceId : String) (script : List (Option String)) : House :=
  { house with readFaults := house.readFaults.set deviceId script }

/-- Has the devices refuse a number of commands. -/
def refuseNext (house : House) (count : Nat) : House :=
  { house with devices := { house.devices with refusals := count } }

/-- Sets or clears the state of a device. -/
def drift (house : House) (deviceId : String) (state : Option DeviceState) : House :=
  { house with
    devices := { house.devices with states := house.devices.states.put deviceId state } }

/-! ## Calls -/

/-- Takes the next entry of a device from a table of scripts. -/
def takeFault {α : Type} (scripts : Table (List (Option α))) (deviceId : String) :
    Table (List (Option α)) × Option α :=
  match scripts.get? deviceId with
  | some (fault :: rest) => (scripts.set deviceId rest, fault)
  | _ => (scripts, none)

/-- How many calls are in progress on a device. -/
def callsOn (house : House) (deviceId : String) : Nat := (house.inProgress.get? deviceId).getD 0

/-- How many calls were started on a device. -/
def startedOn (house : House) (deviceId : String) : Nat := (house.started.get? deviceId).getD 0

/-- Starts a call; gives how often it suspends. -/
def startCall (house : House) (call : DeviceCall) : House × Nat :=
  let device := call.deviceId
  let count := house.callsOn device + 1
  ({ house with
      started := house.started.set device (house.startedOn device + 1)
      inProgress := house.inProgress.set device count
      peak := max house.peak count },
    house.suspensions device (house.startedOn device))

/-- Ends a call. -/
def endCall (house : House) (call : DeviceCall) : House :=
  { house with
    inProgress := house.inProgress.set call.deviceId (house.callsOn call.deviceId - 1)
    calls := house.calls ++ [call] }

/-- Ends a call that reads a device. -/
def read (house : House) (target : DeviceTarget) : House × ReadReply :=
  let house := house.endCall (.read target)
  match takeFault house.readFaults target.deviceId with
  | (readFaults, some reason) => ({ house with readFaults }, .failed reason)
  | (readFaults, none) => ({ house with readFaults }, house.devices.read target.deviceId)

/-- Ends a call that commands a device. -/
def command (house : House) (target : DeviceTarget) (state : DeviceState) :
    House × CommandReply :=
  let house := house.endCall (.command target state)
  match takeFault house.commandFaults target.deviceId with
  | (commandFaults, some (.breaks reason)) => ({ house with commandFaults }, .failed reason)
  | (commandFaults, some (.refuses status message)) =>
    ({ house with commandFaults }, .answered { success := false, status, message })
  | (commandFaults, none) =>
    let (devices, response) := house.devices.command target.deviceId state
    ({ house with commandFaults, devices }, .answered response)

/-- Saves a state in the store, if there is one; tells whether it was saved. -/
def save (house : House) (deviceId : String) (state : DeviceState) : House × Bool :=
  match house.stored with
  | some states =>
    if house.savesFail then (house, false)
    else ({ house with stored := some (states.set deviceId state) }, true)
  | none => (house, false)

/-- Files a rule. -/
def fileRule (house : House) (write : RuleWrite) : House :=
  { house with rules := house.rules.upsert write }

/-- A house as a backend. -/
def backend : Backend House where
  startCall call house := house.startCall call
  read target house := house.read target
  command target state house := house.command target state
  startSave house := (house, 0)
  save deviceId state house := house.save deviceId state

end House

end HomeAutomation
