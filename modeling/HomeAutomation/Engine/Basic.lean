/-
  HomeAutomation.Engine.Basic

  The state of the engine when nothing is being carried out: the home, the rules, the last state
  that each device is known to have been given, and whatever lies outside and is reached through a
  backend.
-/
import HomeAutomation.Device.Backend
import HomeAutomation.Engine.RuleBook

namespace HomeAutomation

/-- The engine. -/
structure Engine (σ : Type) where
  directory : Directory
  /-- The temperatures that rules may set an air conditioner to. -/
  range : SetPointRange
  book : RuleBook := {}
  /-- The last state that each device accepted. -/
  records : Table DeviceState := []
  outside : σ
  deriving Repr

namespace Engine

variable {σ : Type}

/-! ## Records -/

/-- Records the state that a device accepted. -/
def record (engine : Engine σ) (deviceId : String) (state : DeviceState) : Engine σ :=
  { engine with records := engine.records.set deviceId state }

/-- Whether a device is not known to have a state. -/
def isChangeNeeded (engine : Engine σ) (deviceId : String) (desired : DeviceState) : Bool :=
  match engine.records.get? deviceId with
  | some recorded => !recorded.same desired
  | none => true

/-! ## Calls -/

/-- Starts a call to a device; gives how often it suspends. -/
def startCall (engine : Engine σ) (backend : Backend σ) (call : DeviceCall) : Engine σ × Nat :=
  let (outside, pauses) := backend.startCall call engine.outside
  ({ engine with outside }, pauses)

/-- Ends a call that reads a device; gives its state, which is the recorded one if the device does
    not tell. -/
def readState (engine : Engine σ) (backend : Backend σ) (target : DeviceTarget) :
    Engine σ × Option DeviceState :=
  let (outside, reply) := backend.read target engine.outside
  let state :=
    match reply with
    | .state state => some state
    | _ => engine.records.get? target.deviceId
  ({ engine with outside }, state)

/-- Ends a call that commands a device. -/
def command (engine : Engine σ) (backend : Backend σ) (target : DeviceTarget)
    (state : DeviceState) : Engine σ × CommandReply :=
  let (outside, reply) := backend.command target state engine.outside
  ({ engine with outside }, reply)

/-- Starts saving a state in the store; gives how often that suspends. -/
def startSave (engine : Engine σ) (backend : Backend σ) : Engine σ × Nat :=
  let (outside, pauses) := backend.startSave engine.outside
  ({ engine with outside }, pauses)

/-- Ends saving a state in the store. A state that cannot be saved is not missed: the command
    itself has succeeded. -/
def save (engine : Engine σ) (backend : Backend σ) (deviceId : String) (state : DeviceState) :
    Engine σ :=
  { engine with outside := (backend.save deviceId state engine.outside).1 }

/-! ## Rules -/

/-- Registers a rule text. -/
def register (engine : Engine σ) (text : String) (id : Option String) :
    Except ParseError (Engine σ × Handle) := do
  let (book, handle) ← engine.book.register engine.range text id
  return ({ engine with book }, handle)

/-- Removes the rule of an id; tells whether there was one. -/
def remove (engine : Engine σ) (ruleId : String) : Engine σ × Bool :=
  let (book, found) := engine.book.remove ruleId
  ({ engine with book }, found)

/-- Removes the rule that has the id of a handle; tells whether there was one. -/
def removeHandle (engine : Engine σ) (handle : Handle) : Engine σ × Bool :=
  let (book, found) := engine.book.removeHandle handle
  ({ engine with book }, found)

/-- Registers stored rules, given by id and text. -/
def load (engine : Engine σ) (stored : List (String × String)) : Engine σ × List Handle :=
  let (book, handles) := engine.book.load engine.range stored
  ({ engine with book }, handles)

/-- Sets or clears the state that an action would restore. -/
def setPrevious (engine : Engine σ) (action : Nat) (state : Option DeviceState) : Engine σ :=
  { engine with book := engine.book.setPrevious action state }

/-- Notes that an action was carried out. -/
def markExecuted (engine : Engine σ) (action : Nat) : Engine σ :=
  { engine with book := engine.book.markExecuted action }

end Engine

end HomeAutomation
