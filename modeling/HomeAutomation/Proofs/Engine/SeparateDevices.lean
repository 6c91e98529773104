/-
  HomeAutomation.Proofs.Engine.SeparateDevices

  Devices that work apart from each other.  Each has a state of its own and
  answers by it alone, in any way: a script of states, rejections and failures
  is one, and so is how often its calls suspend.  All that a run does to the
  world then lies in one cell, the device with its record, and what is still
  ahead of a run can be foretold from that cell: `Run.rest` is its end, and
  every step of the run leaves it the same.
-/

import HomeAutomation.Proofs.Engine.Serialization

namespace HomeAutomation

-- ============================================================================
-- Devices
-- ============================================================================

/-- How a device works.  A device saves its states in a part of the store of its own. -/
structure DeviceBehavior (δ : Type) where
  /-- Starts a call; gives how often it suspends. -/
  startCall : DeviceCall → δ → δ × Nat
  read : DeviceTarget → δ → δ × ReadReply
  command : DeviceTarget → DeviceState → δ → δ × CommandReply
  /-- Saves a state; tells whether it was saved. -/
  save : DeviceState → δ → δ × Bool

/-- Devices by id. -/
structure Devices (δ : Type) where
  device : String → δ
  /-- How many saves were started. -/
  saves : Nat := 0

variable {δ : Type}

/-- Puts a device in the place of an id. -/
def Devices.put (devices : Devices δ) (deviceId : String) (device : δ) : Devices δ :=
  { devices with device := fun d => if d = deviceId then device else devices.device d }

/-- Devices that all work in one way, each by its own state.  The saves suspend as often as a
    list of numbers says. -/
def DeviceBehavior.backend (behavior : DeviceBehavior δ) (savePauses : Nat → Nat) :
    Backend (Devices δ) where
  startCall call s :=
    (s.put call.deviceId (behavior.startCall call (s.device call.deviceId)).1,
      (behavior.startCall call (s.device call.deviceId)).2)
  read target s :=
    (s.put target.deviceId (behavior.read target (s.device target.deviceId)).1,
      (behavior.read target (s.device target.deviceId)).2)
  command target state s :=
    (s.put target.deviceId (behavior.command target state (s.device target.deviceId)).1,
      (behavior.command target state (s.device target.deviceId)).2)
  startSave s := ({ s with saves := s.saves + 1 }, savePauses s.saves)
  save deviceId state s :=
    (s.put deviceId (behavior.save state (s.device deviceId)).1,
      (behavior.save state (s.device deviceId)).2)

/-- A device with the record of its state. -/
structure Cell (δ : Type) where
  device : δ
  recorded : Option DeviceState

namespace Cell

/-- The cell after a call was started. -/
def start (behavior : DeviceBehavior δ) (call : DeviceCall) (cell : Cell δ) : Cell δ :=
  { cell with device := (behavior.startCall call cell.device).1 }

/-- The cell after the device was read. -/
def read (behavior : DeviceBehavior δ) (target : DeviceTarget) (cell : Cell δ) : Cell δ :=
  { cell with device := (behavior.read target cell.device).1 }

/-- The cell after the device was commanded. -/
def command (behavior : DeviceBehavior δ) (target : DeviceTarget) (state : DeviceState)
    (cell : Cell δ) : Cell δ :=
  { cell with device := (behavior.command target state cell.device).1 }

/-- The cell after a state was recorded. -/
def record (state : DeviceState) (cell : Cell δ) : Cell δ := { cell with recorded := some state }

/-- The cell after a state was saved. -/
def save (behavior : DeviceBehavior δ) (state : DeviceState) (cell : Cell δ) : Cell δ :=
  { cell with device := (behavior.save state cell.device).1 }

end Cell

-- ============================================================================
-- Cells of the engine
-- ============================================================================

namespace Engine

variable {engine : Engine (Devices δ)} {behavior : DeviceBehavior δ} {savePauses : Nat → Nat}
  {target : DeviceTarget} {state : DeviceState}

/-- A device of the engine with its record. -/
def cell (engine : Engine (Devices δ)) (deviceId : String) : Cell δ :=
  ⟨engine.outside.device deviceId, engine.records.get? deviceId⟩

theorem cell_congr {other : Engine (Devices δ)} (outside : other.outside = engine.outside)
    (records : other.records = engine.records) : other.cell = engine.cell := by
  funext d
  rw [cell, cell, outside, records]

theorem cell_startCall_self {call : DeviceCall} (deviceId : String)
    (h : call.deviceId = deviceId) :
    (engine.startCall (behavior.backend savePauses) call).1.cell deviceId
      = (engine.cell deviceId).start behavior call := by
  subst h
  simp [cell, startCall, DeviceBehavior.backend, Devices.put, Cell.start]

theorem cell_startCall_ne {call : DeviceCall} {d : String} (h : d ≠ call.deviceId) :
    (engine.startCall (behavior.backend savePauses) call).1.cell d = engine.cell d := by
  simp [cell, startCall, DeviceBehavior.backend, Devices.put, h]

@[simp] theorem cell_readState_self :
    (engine.readState (behavior.backend savePauses) target).1.cell target.deviceId
      = (engine.cell target.deviceId).read behavior target := by
  simp [cell, readState, DeviceBehavior.backend, Devices.put, Cell.read]

theorem cell_readState_ne {d : String} (h : d ≠ target.deviceId) :
    (engine.readState (behavior.backend savePauses) target).1.cell d = engine.cell d := by
  simp [cell, readState, DeviceBehavior.backend, Devices.put, h]

@[simp] theorem readState_snd :
    (engine.readState (behavior.backend savePauses) target).2
      = (behavior.read target (engine.cell target.deviceId).device).2.stateBefore
          (engine.cell target.deviceId).recorded :=
  readState_eq ..

@[simp] theorem cell_command_self :
    (engine.command (behavior.backend savePauses) target state).1.cell target.deviceId
      = (engine.cell target.deviceId).command behavior target state := by
  simp [cell, command, DeviceBehavior.backend, Devices.put, Cell.command]

theorem cell_command_ne {d : String} (h : d ≠ target.deviceId) :
    (engine.command (behavior.backend savePauses) target state).1.cell d = engine.cell d := by
  simp [cell, command, DeviceBehavior.backend, Devices.put, h]

@[simp] theorem command_snd :
    (engine.command (behavior.backend savePauses) target state).2
      = (behavior.command target state (engine.cell target.deviceId).device).2 := rfl

@[simp] theorem cell_startSave (d : String) :
    (engine.startSave (behavior.backend savePauses)).1.cell d = engine.cell d := rfl

@[simp] theorem cell_save_self (deviceId : String) :
    (engine.save (behavior.backend savePauses) deviceId state).cell deviceId
      = (engine.cell deviceId).save behavior state := by
  simp [cell, save, DeviceBehavior.backend, Devices.put, Cell.save]

theorem cell_save_ne {deviceId d : String} (h : d ≠ deviceId) :
    (engine.save (behavior.backend savePauses) deviceId state).cell d = engine.cell d := by
  simp [cell, save, DeviceBehavior.backend, Devices.put, h]

@[simp] theorem cell_record_self (deviceId : String) :
    (engine.record deviceId state).cell deviceId = (engine.cell deviceId).record state := by
  simp [cell, record, Cell.record, Table.get?_set_self]

theorem cell_record_ne {deviceId d : String} (h : d ≠ deviceId) :
    (engine.record deviceId state).cell d = engine.cell d := by
  simp [cell, record, Table.get?_set_ne _ _ h]

@[simp] theorem cell_setPrevious (id : Nat) (previous : Option DeviceState) (d : String) :
    (engine.setPrevious id previous).cell d = engine.cell d := rfl

@[simp] theorem cell_markExecuted (id : Nat) (d : String) :
    (engine.markExecuted id).cell d = engine.cell d := rfl

end Engine

-- ============================================================================
-- What is ahead of a run
-- ============================================================================

namespace Run

variable (behavior : DeviceBehavior δ) (run : Run) (target : DeviceTarget)

/-- What follows a failed command whose state before is on its way. -/
def restRestoring (failure : CallError) (state : DeviceState) (cell : Cell δ) :
    Cell δ × Except ExecuteError ExecuteResult :=
  match (behavior.command target state cell.device).2.restoreFailure? target.deviceId with
  | none => (((cell.command behavior target state).record state).save behavior state,
      .error (.call { failure with rollback := some (.restored state) }))
  | some reason => (cell.command behavior target state,
      .error (.call { failure with rollback := some (.failed state reason) }))

/-- What follows while the command is on its way. -/
def restCommanding (previous : Option DeviceState) (cell : Cell δ) :
    Cell δ × Except ExecuteError ExecuteResult :=
  match (behavior.command target run.desired cell.device).2.failure? target.deviceId with
  | none => (((cell.command behavior target run.desired).record run.desired).save behavior
      run.desired, .ok (.changed target run.kind run.location run.desired))
  | some failure =>
    match previous with
    | none => (cell.command behavior target run.desired,
        .error (.call { failure with rollback := some .notAttempted }))
    | some state => restRestoring behavior target failure state
        ((cell.command behavior target run.desired).start behavior (.command target state))

/-- What follows while the state before is being read. -/
def restReading (cell : Cell δ) : Cell δ × Except ExecuteError ExecuteResult :=
  restCommanding behavior run target
    ((behavior.read target cell.device).2.stateBefore cell.recorded)
    ((cell.read behavior target).start behavior (.command target run.desired))

/-- What follows once the lock is held. -/
def restQueued (cell : Cell δ) : Cell δ × Except ExecuteError ExecuteResult :=
  if Visit.isDue run.force run.desired cell.recorded then
    restReading behavior run target (cell.start behavior (.read target))
  else (cell, .ok (.unchanged target.deviceId run.desired))

/-- The cell and the result that a run ends with, if nobody else uses the device on the way. -/
def rest (previous : Option DeviceState) (cell : Cell δ) :
    Cell δ × Except ExecuteError ExecuteResult :=
  match run.phase with
  | .ready => restQueued behavior run target cell
  | .queued _ => restQueued behavior run target cell
  | .reading _ => restReading behavior run target cell
  | .commanding _ => restCommanding behavior run target previous cell
  | .restoring _ failure state => restRestoring behavior target failure state cell
  | .saving _ state result => (cell.save behavior state, result)
  | .finished result => (cell, result)

variable {behavior run target} {savePauses : Nat → Nat} {self : Nat} {engine : Engine (Devices δ)}
  {locks : LockTable} {step : RunStep (Devices δ)}

/-- What is ahead of a run that is outside does not depend on any note. -/
theorem rest_of_outside (outside : run.isInside = false) (previous other : Option DeviceState)
    (cell : Cell δ) :
    run.rest behavior target previous cell = run.rest behavior target other cell := by
  unfold isInside at outside
  unfold rest
  cases h : run.phase <;> simp_all

theorem cell_settle (result : Except ExecuteError ExecuteResult) :
    (run.settle engine result).cell = engine.cell :=
  Engine.cell_congr outside_settle records_settle

/-- The target of a run is that of its phase. -/
theorem target?_of_phase {phase : RunPhase} (h : run.phase = phase) {found : DeviceTarget}
    (hf : ({ run with phase } : Run).target? = some found) : run.target? = some found := by
  subst h
  exact hf

/-- A step brings a run nearer to the end that was ahead of it. -/
theorem Proceeds.rest_eq
    (h : run.Proceeds (behavior.backend savePauses) self engine locks step)
    (known : engine.directory.resolve run.location run.kind.name = .ok target)
    (resolves : ∀ found, run.target? = some found → found = target) {a : Action}
    (ha : engine.book.action? run.action = some a) :
    step.run.rest behavior target (step.engine.book.previous? run.action)
        (step.engine.cell target.deviceId)
      = run.rest behavior target (engine.book.previous? run.action)
          (engine.cell target.deviceId) := by
  cases h with
  | unmapped phase unknown => cases known.symm.trans unknown
  | ask phase found =>
    rw [rest, rest, phase]
    rfl
  | @begin target phase held needed =>
    obtain rfl := resolves _ (target?_of_phase phase rfl)
    have due : Visit.isDue run.force run.desired (engine.cell target.deviceId).recorded = true :=
      (isNeeded_eq_isDue ..).symm.trans needed
    show restReading behavior run target (Engine.cell _ target.deviceId) = _
    rw [Engine.cell_startCall_self target.deviceId rfl, rest, phase]
    exact (if_pos due).symm
  | @skip target phase held needless =>
    obtain rfl := resolves _ (target?_of_phase phase rfl)
    have due : Visit.isDue run.force run.desired (engine.cell target.deviceId).recorded = false :=
      (isNeeded_eq_isDue ..).symm.trans needless
    rw [rest, rest, phase]
    exact (if_neg (by simp [due])).symm
  | @read target phase =>
    obtain rfl := resolves _ (target?_of_phase phase rfl)
    have noted : (run.sendDesired (behavior.backend savePauses) engine target).1.book.previous?
        run.action = (engine.readState (behavior.backend savePauses) target).2 :=
      RuleBook.previous?_setPrevious_self ha _
    show restCommanding behavior run target _ (Engine.cell _ target.deviceId) = _
    rw [noted, Engine.readState_snd, sendDesired, Engine.cell_startCall_self target.deviceId rfl,
      Engine.cell_setPrevious, Engine.cell_readState_self, rest, phase]
    rfl
  | @accept target phase accepted =>
    obtain rfl := resolves _ (target?_of_phase phase rfl)
    rw [Engine.command_snd] at accepted
    show (Engine.cell _ target.deviceId |>.save behavior run.desired, _) = _
    rw [Run.accept, Engine.cell_startSave, Engine.cell_record_self, Engine.cell_command_self,
      rest, phase]
    simp only [restCommanding, accepted]
  | @abandon target failure phase failed unknown =>
    obtain rfl := resolves _ (target?_of_phase phase rfl)
    rw [Engine.command_snd] at failed
    show (Engine.cell _ target.deviceId, _) = _
    rw [close, leave, cell_settle, Engine.cell_command_self, rest, phase]
    simp only [restCommanding, failed, unknown]
  | @restore target failure state phase failed noted =>
    obtain rfl := resolves _ (target?_of_phase phase rfl)
    rw [Engine.command_snd] at failed
    show restRestoring behavior target failure state (Engine.cell _ target.deviceId) = _
    rw [Engine.cell_startCall_self target.deviceId rfl, Engine.cell_command_self, rest, phase]
    simp only [restCommanding, failed, noted]
  | @restored target failure state phase accepted =>
    obtain rfl := resolves _ (target?_of_phase phase rfl)
    rw [Engine.command_snd] at accepted
    show (Engine.cell _ target.deviceId |>.save behavior state, _) = _
    rw [Run.accept, Engine.cell_startSave, Engine.cell_record_self, Engine.cell_command_self,
      rest, phase]
    simp only [restRestoring, accepted]
  | @unrestored target failure state reason phase failed =>
    obtain rfl := resolves _ (target?_of_phase phase rfl)
    rw [Engine.command_snd] at failed
    show (Engine.cell _ target.deviceId, _) = _
    rw [close, leave, cell_settle, Engine.cell_command_self, rest, phase]
    simp only [restRestoring, failed]
  | @save target state result phase =>
    obtain rfl := resolves _ (target?_of_phase phase rfl)
    show (Engine.cell _ target.deviceId, _) = _
    rw [close, leave, cell_settle, Engine.cell_save_self, rest, phase]

/-- A step leaves the cells of other devices alone. -/
theorem Proceeds.cell_ne
    (h : run.Proceeds (behavior.backend savePauses) self engine locks step) {d : String}
    (hd : ∀ target, run.target? = some target → d ≠ target.deviceId) :
    step.engine.cell d = engine.cell d := by
  have other {phase : RunPhase} {target : DeviceTarget} (h : run.phase = phase)
      (ht : ({ run with phase } : Run).target? = some target) : d ≠ target.deviceId :=
    hd target (target?_of_phase h ht)
  cases h with
  | unmapped | ask | skip => rfl
  | begin phase =>
    rw [Engine.cell_startCall_ne (other phase rfl)]
  | read phase =>
    rw [sendDesired, Engine.cell_startCall_ne (other phase rfl), Engine.cell_setPrevious,
      Engine.cell_readState_ne (other phase rfl)]
  | accept phase | restored phase =>
    rw [Run.accept, Engine.cell_startSave, Engine.cell_record_ne (other phase rfl),
      Engine.cell_command_ne (other phase rfl)]
  | abandon phase | unrestored phase =>
    rw [close, leave, cell_settle, Engine.cell_command_ne (other phase rfl)]
  | restore phase =>
    rw [Engine.cell_startCall_ne (other phase rfl), Engine.cell_command_ne (other phase rfl)]
  | save phase =>
    rw [close, leave, cell_settle, Engine.cell_save_ne (other phase rfl)]

end Run

end HomeAutomation
