/-
  HomeAutomation.Engine.Run

  One action being carried out. The device of the action is looked up and its lock is waited for;
  the state before is read, the command is sent, and what the device accepted is recorded and saved
  in the store. If the command fails, the device is given back the state before, as far as that is
  known. A device that is recorded to be in the desired state already is left alone.

  A run advances in steps, each of which stands between two places where other runs may go first:
  the wait for the lock and the suspensions of calls.
-/
import HomeAutomation.Engine.Basic
import HomeAutomation.Engine.Lock
import HomeAutomation.Engine.Outcome

namespace HomeAutomation

/-! ## What a run says about its calls -/

namespace ExecuteResult

/-- The device was left alone. -/
def unchanged (deviceId : String) (desired : DeviceState) : ExecuteResult :=
  { success := true, deviceId, noChange := true, state := some desired
    message := "Device already in desired state" }

/-- The device accepted the command. -/
def changed (target : DeviceTarget) (kind : DeviceKind) (location : String)
    (desired : DeviceState) : ExecuteResult :=
  { success := true, deviceId := target.deviceId, state := some desired
    message := kind.name ++ " in " ++ location ++ " set to " ++ ActionSpec.powerWord desired.power }

end ExecuteResult

namespace CommandReply

/-- The failure that a reply to a command reports. -/
def failure? (deviceId : String) : CommandReply → Option CallError
  | failed reason =>
    some { message := "Command to " ++ deviceId ++ " failed: " ++ reason, deviceId, raised := true }
  | answered response =>
    if response.success then none
    else some { message := response.reason deviceId, deviceId, status := some response.status }

/-- Why a reply to a restoring command means that the state was not restored. -/
def restoreFailure? (deviceId : String) : CommandReply → Option String
  | failed reason => some reason
  | answered response =>
    if response.success then none
    else some ("Rollback of " ++ deviceId ++ " rejected (status=" ++ toString response.status
      ++ "): " ++ response.message.label)

end CommandReply

/-! ## Runs -/

/-- How far a run has come. -/
inductive RunPhase
  /-- Nothing has been done. -/
  | ready
  /-- The lock of the device has been asked for. -/
  | queued (target : DeviceTarget)
  /-- The state before is being read. -/
  | reading (target : DeviceTarget)
  /-- The command is on its way. -/
  | commanding (target : DeviceTarget)
  /-- The command has failed, and the state before is on its way. -/
  | restoring (target : DeviceTarget) (failure : CallError) (state : DeviceState)
  /-- The device has accepted a state, which is being saved. -/
  | saving (target : DeviceTarget) (state : DeviceState)
      (result : Except ExecuteError ExecuteResult)
  | finished (result : Except ExecuteError ExecuteResult)

/-- One execution of an action. -/
structure Run where
  action : Nat
  kind : DeviceKind
  location : String
  desired : DeviceState
  /-- Whether the command is sent even if the device is recorded to be in the desired state. -/
  force : Bool
  /-- The dispatch that waits for the run. -/
  parent : Option Nat := none
  phase : RunPhase := .ready
  /-- How often the call in progress still suspends. -/
  pauses : Nat := 0

/-- A step of a run. -/
structure RunStep (σ : Type) where
  engine : Engine σ
  locks : LockTable
  run : Run
  /-- The run that was given a lock. -/
  woken : Option Nat := none

namespace Run

variable {σ : Type}

/-- The run of an action. -/
def ofAction (id : Nat) (a : Action) (force : Bool) (parent : Option Nat) : Run :=
  { action := id, kind := a.spec.device, location := a.spec.location, desired := a.desired
    force, parent }

/-- The run in a phase whose call suspends a number of times. -/
def enter (run : Run) (phase : RunPhase) (pauses : Nat) : Run := { run with phase, pauses }

/-- The result of a run that is over. -/
def result? (run : Run) : Option (Except ExecuteError ExecuteResult) :=
  match run.phase with
  | .finished result => some result
  | _ => none

/-- Ends a run and gives up the lock of its device. -/
def leave (run : Run) (engine : Engine σ) (locks : LockTable) (target : DeviceTarget)
    (result : Except ExecuteError ExecuteResult) : RunStep σ :=
  let (locks, woken) := locks.release target.deviceId
  ⟨engine, locks, run.enter (.finished result) 0, woken⟩

/-- Ends a run that has called its device: there is nothing to restore any more. -/
def finish (run : Run) (engine : Engine σ) (locks : LockTable) (target : DeviceTarget)
    (result : Except ExecuteError ExecuteResult) : RunStep σ :=
  let engine := engine.setPrevious run.action none
  let engine := if result.toBool then engine.markExecuted run.action else engine
  run.leave engine locks target result

/-- Records a state that the device accepted and starts saving it. -/
def accept (run : Run) (backend : Backend σ) (engine : Engine σ) (locks : LockTable)
    (target : DeviceTarget) (state : DeviceState) (result : Except ExecuteError ExecuteResult) :
    RunStep σ :=
  let (engine, pauses) := (engine.record target.deviceId state).startSave backend
  ⟨engine, locks, run.enter (.saving target state result) pauses, none⟩

/-- Goes on after a command has failed: restores the state before, if there is one. -/
def restore (run : Run) (backend : Backend σ) (engine : Engine σ) (locks : LockTable)
    (target : DeviceTarget) (failure : CallError) : RunStep σ :=
  match engine.book.previous? run.action with
  | none => run.finish engine locks target (.error (.call
      { failure with rollback := some .notAttempted }))
  | some state =>
    let (engine, pauses) := engine.startCall backend (.command target state)
    ⟨engine, locks, run.enter (.restoring target failure state) pauses, none⟩

/-- Does the next step of a run whose call does not suspend. A run that is over or that waits for a
    lock has none. `self` is the number of the run. -/
def proceed (run : Run) (backend : Backend σ) (self : Nat) (engine : Engine σ)
    (locks : LockTable) : Option (RunStep σ) :=
  match run.phase with
  | .ready =>
    match engine.directory.resolve run.location run.kind.name with
    | .error e => some ⟨engine, locks, run.enter (.finished (.error (.notFound e))) 0, none⟩
    | .ok target => some ⟨engine, locks.acquire target.deviceId self, run.enter (.queued target) 0,
        none⟩
  | .queued target =>
    if locks.heldBy target.deviceId self then
      if run.force || engine.isChangeNeeded target.deviceId run.desired then
        let (engine, pauses) := engine.startCall backend (.read target)
        some ⟨engine, locks, run.enter (.reading target) pauses, none⟩
      else
        some (run.leave engine locks target (.ok (.unchanged target.deviceId run.desired)))
    else none
  | .reading target =>
    let (engine, previous) := engine.readState backend target
    let engine := engine.setPrevious run.action previous
    let (engine, pauses) := engine.startCall backend (.command target run.desired)
    some ⟨engine, locks, run.enter (.commanding target) pauses, none⟩
  | .commanding target =>
    let (engine, reply) := engine.command backend target run.desired
    match reply.failure? target.deviceId with
    | none => some (run.accept backend engine locks target run.desired
        (.ok (.changed target run.kind run.location run.desired)))
    | some failure => some (run.restore backend engine locks target failure)
  | .restoring target failure state =>
    let (engine, reply) := engine.command backend target state
    match reply.restoreFailure? target.deviceId with
    | none => some (run.accept backend engine locks target state
        (.error (.call { failure with rollback := some (.restored state) })))
    | some reason => some (run.finish engine locks target
        (.error (.call { failure with rollback := some (.failed state reason) })))
  | .saving target state result =>
    some (run.finish (engine.save backend target.deviceId state) locks target result)
  | .finished _ => none

/-! ## Progress -/

/-- How many phases a run still has before it, at most. -/
def remaining (run : Run) : Nat :=
  match run.phase with
  | .ready => 6
  | .queued _ => 5
  | .reading _ => 4
  | .commanding _ => 3
  | .restoring _ _ _ => 2
  | .saving _ _ _ => 1
  | .finished _ => 0

/-- Every step brings a run closer to its end. -/
theorem remaining_proceed {run : Run} {backend : Backend σ} {self : Nat} {engine : Engine σ}
    {locks : LockTable} {step : RunStep σ} (h : run.proceed backend self engine locks = some step) :
    step.run.remaining < run.remaining := by
  unfold proceed at h
  split at h <;> rename_i hp
  · split at h <;> cases h <;> simp [remaining, enter, hp]
  · split at h
    · split at h <;> cases h <;> simp [remaining, leave, enter, hp]
    · cases h
  · cases h
    simp [remaining, enter, hp]
  · dsimp only at h
    split at h <;> cases h
    · simp [remaining, accept, enter, hp]
    · unfold restore
      split <;> simp [remaining, finish, leave, enter, hp]
  · dsimp only at h
    split at h <;> cases h <;> simp [remaining, accept, finish, leave, enter, hp]
  · cases h
    simp [remaining, finish, leave, enter, hp]
  · cases h

end Run

end HomeAutomation
