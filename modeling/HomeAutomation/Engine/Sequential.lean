/-
  HomeAutomation.Engine.Sequential

  The engine without concurrency: an action is carried out from start to end before anything else
  happens, and a snapshot is dispatched by telling one action after the other. Calls are made as
  under a schedule, but nothing goes on while they suspend. This is what a schedule of tasks has to
  agree with, device by device.
-/
import HomeAutomation.Engine.Dispatch
import HomeAutomation.Engine.Run

namespace HomeAutomation

namespace Sequential

variable {σ : Type}

/-! ## Calls -/

/-- Reads a device; gives the state that is to be restored if a command fails. -/
def readState (engine : Engine σ) (backend : Backend σ) (target : DeviceTarget) :
    Engine σ × Option DeviceState :=
  (engine.startCall backend (.read target)).1.readState backend target

/-- Commands a device. -/
def command (engine : Engine σ) (backend : Backend σ) (target : DeviceTarget)
    (state : DeviceState) : Engine σ × CommandReply :=
  (engine.startCall backend (.command target state)).1.command backend target state

/-- Records and saves a state that a device accepted. -/
def accept (engine : Engine σ) (backend : Backend σ) (deviceId : String) (state : DeviceState) :
    Engine σ :=
  ((engine.record deviceId state).startSave backend).1.save backend deviceId state

/-! ## Actions -/

/-- Gives a device back the state that an action noted before its command, if there is one. -/
def rollback (engine : Engine σ) (backend : Backend σ) (action : Nat) (target : DeviceTarget) :
    Engine σ × RollbackOutcome :=
  match engine.book.previous? action with
  | none => (engine, .notAttempted)
  | some state =>
    let (engine, reply) := command engine backend target state
    match reply.restoreFailure? target.deviceId with
    | none => (accept engine backend target.deviceId state, .restored state)
    | some reason => (engine, .failed state reason)

/-- Gives the device of an action back a given state, or nothing where none is given. -/
def restore (engine : Engine σ) (backend : Backend σ) (action : Nat) (a : Action)
    (previous : Option DeviceState) : Engine σ × Except DeviceNotFound RollbackOutcome :=
  let engine := engine.setPrevious action previous
  match engine.directory.resolve a.spec.location a.spec.device.name with
  | .error e => (engine, .error e)
  | .ok target =>
    let (engine, outcome) := rollback engine backend action target
    (engine, .ok outcome)

/-- Gives a device its desired state: reads it, commands it, and on failure restores it. -/
def change (engine : Engine σ) (backend : Backend σ) (action : Nat) (a : Action)
    (target : DeviceTarget) : Engine σ × Except ExecuteError ExecuteResult :=
  let (engine, previous) := readState engine backend target
  let engine := engine.setPrevious action previous
  let (engine, reply) := command engine backend target a.desired
  match reply.failure? target.deviceId with
  | none =>
    let engine := accept engine backend target.deviceId a.desired
    ((engine.setPrevious action none).markExecuted action,
      .ok (.changed target a.spec.device a.spec.location a.desired))
  | some failure =>
    let (engine, outcome) := rollback engine backend action target
    (engine.setPrevious action none, .error (.call { failure with rollback := some outcome }))

/-- Carries an action out. -/
def execute (engine : Engine σ) (backend : Backend σ) (action : Nat) (a : Action) (force : Bool) :
    Engine σ × Except ExecuteError ExecuteResult :=
  match engine.directory.resolve a.spec.location a.spec.device.name with
  | .error e => (engine, .error (.notFound e))
  | .ok target =>
    if force || engine.isChangeNeeded target.deviceId a.desired then
      change engine backend action a target
    else (engine, .ok (.unchanged target.deviceId a.desired))

/-! ## Dispatches -/

/-- Acts on a notification. -/
def act (backend : Backend σ) (force : Bool) (engine : Engine σ) (notice : Notice) :
    Engine σ × ActionOutcome :=
  match (engine.book.action? notice.action).filter fun _ => notice.active with
  | some a =>
    let (engine, result) := execute engine backend notice.action a force
    (engine, notice.outcome (some result))
  | none => (engine, notice.outcome none)

/-- Acts on notifications one after the other. -/
def actAll (backend : Backend σ) (force : Bool) :
    Engine σ → List Notice → Engine σ × List ActionOutcome
  | engine, [] => (engine, [])
  | engine, notice :: rest =>
    let (engine, outcome) := act backend force engine notice
    let (engine, outcomes) := actAll backend force engine rest
    (engine, outcome :: outcomes)

/-- Dispatches a snapshot. -/
def dispatch (engine : Engine σ) (backend : Backend σ) (snapshot : Json) :
    Engine σ × Except DispatchError (List ActionOutcome) :=
  match engine.observe snapshot with
  | (engine, .error e) => (engine, .error e)
  | (engine, .ok events) =>
    let (engine, outcomes) := actAll backend false engine (engine.notices events)
    (engine, .ok outcomes)

/-- Dispatches snapshots one after the other. -/
def dispatchAll (backend : Backend σ) :
    Engine σ → List Json → Engine σ × List (Except DispatchError (List ActionOutcome))
  | engine, [] => (engine, [])
  | engine, snapshot :: rest =>
    let (engine, result) := dispatch engine backend snapshot
    let (engine, results) := dispatchAll backend engine rest
    (engine, result :: results)

end Sequential

end HomeAutomation
