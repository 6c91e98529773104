/-
  HomeAutomation.Proofs.Engine.Transition

  The engine as a transition system.  `Activity.Reached` holds of every
  activity that requests and steps can lead to from an engine without rules:
  rules may come and go, snapshots arrive and actions be carried out by hand
  at any time, and any task that can advance may be the next to do so.  What
  runs say to devices is kept in a log of contacts.

  The relations `Run.Proceeds` and `Activity.Advances` say once what a step
  can do; every invariant of the engine is a case analysis over them.
-/

import HomeAutomation.Engine.Request

namespace HomeAutomation

variable {σ : Type}

-- ============================================================================
-- Contacts
-- ============================================================================

/-- What passes between a run and its device in a step. -/
inductive Exchange
  /-- The device is left alone, being recorded to be in the desired state. -/
  | skipped
  /-- The device has been read. -/
  | read (reply : ReadReply)
  /-- The device has been commanded. -/
  | command (state : DeviceState) (reply : CommandReply)

/-- An exchange of a task with a device. -/
structure Contact where
  task : Nat
  deviceId : String
  exchange : Exchange

namespace Run

/-- The device that a run deals with, from asking for its lock to giving it up. -/
def target? (run : Run) : Option DeviceTarget :=
  match run.phase with
  | .queued target => some target
  | .reading target => some target
  | .commanding target => some target
  | .restoring target _ _ => some target
  | .saving target _ _ => some target
  | .ready => none
  | .finished _ => none

/-- Whether a run has passed the lock of its device and has not given it up. -/
def isInside (run : Run) : Bool :=
  match run.phase with
  | .reading _ => true
  | .commanding _ => true
  | .restoring _ _ _ => true
  | .saving _ _ _ => true
  | _ => false

/-- The call that a run waits for. -/
def call? (run : Run) : Option DeviceCall :=
  match run.phase with
  | .reading target => some (.read target)
  | .commanding target => some (.command target run.desired)
  | .restoring target _ state => some (.command target state)
  | _ => none

/-- Whether a run sends its command although it may be superfluous, or has to send it. -/
def isNeeded (run : Run) (engine : Engine σ) (target : DeviceTarget) : Bool :=
  run.force || engine.isChangeNeeded target.deviceId run.desired

/-- What the next step of a run says to its device. -/
def contact? (run : Run) (backend : Backend σ) (self : Nat) (engine : Engine σ)
    (locks : LockTable) : Option Contact :=
  match run.phase with
  | .queued target =>
    if locks.heldBy target.deviceId self && !run.isNeeded engine target then
      some ⟨self, target.deviceId, .skipped⟩
    else none
  | .reading target =>
    some ⟨self, target.deviceId, .read (backend.read target engine.outside).2⟩
  | .commanding target =>
    some ⟨self, target.deviceId,
      .command run.desired (backend.command target run.desired engine.outside).2⟩
  | .restoring target _ state =>
    some ⟨self, target.deviceId,
      .command state (backend.command target state engine.outside).2⟩
  | _ => none

-- ============================================================================
-- Steps of a run
-- ============================================================================

/-- The notes on an action whose run is over. -/
def settle (run : Run) (engine : Engine σ) (result : Except ExecuteError ExecuteResult) :
    Engine σ :=
  if result.toBool then (engine.setPrevious run.action none).markExecuted run.action
  else engine.setPrevious run.action none

/-- Ends a run that has called its device. -/
def close (run : Run) (engine : Engine σ) (locks : LockTable) (target : DeviceTarget)
    (result : Except ExecuteError ExecuteResult) : RunStep σ :=
  run.leave (run.settle engine result) locks target result

theorem finish_eq_close (run : Run) (engine : Engine σ) (locks : LockTable)
    (target : DeviceTarget) (result : Except ExecuteError ExecuteResult) :
    run.finish engine locks target result = run.close engine locks target result := by
  simp only [finish, close, settle]

/-- Notes what was read and commands the device. -/
def sendDesired (run : Run) (backend : Backend σ) (engine : Engine σ) (target : DeviceTarget) :
    Engine σ × Nat :=
  ((engine.readState backend target).1.setPrevious run.action
    (engine.readState backend target).2).startCall backend (.command target run.desired)

/-- What a step of a run can do.  There is one case for each way out of each phase. -/
inductive Proceeds (backend : Backend σ) (self : Nat) (engine : Engine σ) (locks : LockTable)
    (run : Run) : RunStep σ → Prop
  | unmapped {e} (phase : run.phase = .ready)
      (unknown : engine.directory.resolve run.location run.kind.name = .error e) :
      Proceeds backend self engine locks run
        ⟨engine, locks, run.enter (.finished (.error (.notFound e))) 0, none⟩
  | ask {target} (phase : run.phase = .ready)
      (known : engine.directory.resolve run.location run.kind.name = .ok target) :
      Proceeds backend self engine locks run
        ⟨engine, locks.acquire target.deviceId self, run.enter (.queued target) 0, none⟩
  | begin {target} (phase : run.phase = .queued target)
      (held : locks.heldBy target.deviceId self = true)
      (needed : run.isNeeded engine target = true) :
      Proceeds backend self engine locks run
        ⟨(engine.startCall backend (.read target)).1, locks,
          run.enter (.reading target) (engine.startCall backend (.read target)).2, none⟩
  | skip {target} (phase : run.phase = .queued target)
      (held : locks.heldBy target.deviceId self = true)
      (needless : run.isNeeded engine target = false) :
      Proceeds backend self engine locks run
        (run.leave engine locks target (.ok (.unchanged target.deviceId run.desired)))
  | read {target} (phase : run.phase = .reading target) :
      Proceeds backend self engine locks run
        ⟨(run.sendDesired backend engine target).1, locks,
          run.enter (.commanding target) (run.sendDesired backend engine target).2, none⟩
  | accept {target} (phase : run.phase = .commanding target)
      (accepted : (engine.command backend target run.desired).2.failure? target.deviceId = none) :
      Proceeds backend self engine locks run
        (run.accept backend (engine.command backend target run.desired).1 locks target run.desired
          (.ok (.changed target run.kind run.location run.desired)))
  | abandon {target failure} (phase : run.phase = .commanding target)
      (failed : (engine.command backend target run.desired).2.failure? target.deviceId
        = some failure)
      (unknown : engine.book.previous? run.action = none) :
      Proceeds backend self engine locks run
        (run.close (engine.command backend target run.desired).1 locks target
          (.error (.call { failure with rollback := some .notAttempted })))
  | restore {target failure state} (phase : run.phase = .commanding target)
      (failed : (engine.command backend target run.desired).2.failure? target.deviceId
        = some failure)
      (known : engine.book.previous? run.action = some state) :
      Proceeds backend self engine locks run
        ⟨((engine.command backend target run.desired).1.startCall backend
            (.command target state)).1, locks,
          run.enter (.restoring target failure state)
            ((engine.command backend target run.desired).1.startCall backend
              (.command target state)).2, none⟩
  | restored {target failure state} (phase : run.phase = .restoring target failure state)
      (accepted : (engine.command backend target state).2.restoreFailure? target.deviceId
        = none) :
      Proceeds backend self engine locks run
        (run.accept backend (engine.command backend target state).1 locks target state
          (.error (.call { failure with rollback := some (.restored state) })))
  | unrestored {target failure state reason} (phase : run.phase = .restoring target failure state)
      (failed : (engine.command backend target state).2.restoreFailure? target.deviceId
        = some reason) :
      Proceeds backend self engine locks run
        (run.close (engine.command backend target state).1 locks target
          (.error (.call { failure with rollback := some (.failed state reason) })))
  | save {target state result} (phase : run.phase = .saving target state result) :
      Proceeds backend self engine locks run
        (run.close (engine.save backend target.deviceId state) locks target result)

theorem proceeds_of_proceed {run : Run} {backend : Backend σ} {self : Nat} {engine : Engine σ}
    {locks : LockTable} {step : RunStep σ}
    (h : run.proceed backend self engine locks = some step) :
    run.Proceeds backend self engine locks step := by
  unfold proceed at h
  simp only [finish_eq_close] at h
  split at h <;> rename_i phase
  · split at h <;> cases h
    · exact .unmapped phase ‹_›
    · exact .ask phase ‹_›
  · split at h
    · rename_i held
      split at h <;> rename_i needed <;> cases h
      · exact .begin phase held needed
      · exact .skip phase held (Bool.eq_false_iff.2 needed)
    · cases h
  · cases h
    exact .read phase
  · split at h <;> rename_i failed <;> cases h
    · exact .accept phase failed
    · unfold restore
      rw [finish_eq_close]
      split
      · exact .abandon phase failed ‹_›
      · exact .restore phase failed ‹_›
  · split at h <;> rename_i failed <;> cases h
    · exact .restored phase failed
    · exact .unrestored phase failed
  · cases h
    exact .save phase
  · cases h

end Run

/-- A backend whose devices are off when asked and accept every command at once. -/
def Backend.obliging : Backend Unit where
  startCall _ s := (s, 0)
  read _ s := (s, .state { power := false })
  command _ _ s := (s, .answered { success := true, status := 200 })
  startSave s := (s, 0)
  save _ _ s := (s, true)

-- ============================================================================
-- Steps of an activity
-- ============================================================================

namespace Activity

/-- What the next step of a task says to a device. -/
def contacts (activity : Activity σ) (backend : Backend σ) (self : Nat) : List Contact :=
  match activity.tasks[self]? with
  | some (.run run) =>
    if run.pauses = 0 then
      (run.contact? backend self activity.engine activity.locks).toList
    else []
  | _ => []

/-- What a step of a task can do. -/
inductive Advances (backend : Backend σ) (activity : Activity σ) (self : Nat) :
    Activity σ → Prop
  | pause {run : Run} {pauses : Nat} (task : activity.tasks[self]? = some (.run run))
      (busy : run.pauses = pauses + 1) :
      Advances backend activity self (activity.put self (.run { run with pauses }))
  | run {run : Run} {step : RunStep σ} (task : activity.tasks[self]? = some (.run run))
      (idle : run.pauses = 0)
      (proceeds : run.Proceeds backend self activity.engine activity.locks step) :
      Advances backend activity self
        { activity.put self (.run step.run) with engine := step.engine, locks := step.locks }
  | queue {snapshot : Json} (task : activity.tasks[self]? = some (.dispatch ⟨snapshot, .ready⟩)) :
      Advances backend activity self
        { activity.put self (.dispatch ⟨snapshot, .queued⟩) with
          snapshotLock := activity.snapshotLock.acquire self }
  | refuse {snapshot : Json} {engine : Engine σ} {e : DispatchError}
      (task : activity.tasks[self]? = some (.dispatch ⟨snapshot, .queued⟩))
      (held : activity.snapshotLock.heldBy self = true)
      (observes : activity.engine.observe snapshot = (engine, .error e)) :
      Advances backend activity self
        { activity.put self (.dispatch ⟨snapshot, .finished (.error e)⟩) with
          engine, snapshotLock := activity.snapshotLock.release }
  | spread {snapshot : Json} {engine : Engine σ} {events : List Nat} {slots : List Slot}
      {runs : List Run} (task : activity.tasks[self]? = some (.dispatch ⟨snapshot, .queued⟩))
      (held : activity.snapshotLock.heldBy self = true)
      (observes : activity.engine.observe snapshot = (engine, .ok events))
      (fans : slotsOf engine.book false (some self) activity.tasks.length
        (engine.notices events) = (slots, runs)) :
      Advances backend activity self
        { activity with
          engine
          tasks := activity.tasks.set self (.dispatch ⟨snapshot, .gathering slots⟩)
            ++ runs.map .run }
  | gather {snapshot : Json} {slots : List Slot} {outcomes : List ActionOutcome}
      (task : activity.tasks[self]? = some (.dispatch ⟨snapshot, .gathering slots⟩))
      (known : activity.outcomes? slots = some outcomes) :
      Advances backend activity self
        { activity.put self (.dispatch ⟨snapshot, .finished (.ok outcomes)⟩) with
          snapshotLock := activity.snapshotLock.release }

/-- One step of a task. -/
def Step (backend : Backend σ) (activity : Activity σ) (self : Nat) (next : Activity σ) : Prop :=
  (activity.advance backend self).map (·.next) = some next

theorem Step.advances {backend : Backend σ} {activity next : Activity σ} {self : Nat}
    (h : activity.Step backend self next) : activity.Advances backend self next := by
  obtain ⟨step, hs, rfl⟩ := Option.map_eq_some_iff.1 h
  unfold advance at hs
  split at hs
  · rename_i run task
    unfold advanceRun at hs
    split at hs
    · rename_i pauses busy
      cases hs
      exact .pause task busy
    · rename_i idle
      obtain ⟨runStep, hr, rfl⟩ := Option.map_eq_some_iff.1 hs
      exact .run task idle (Run.proceeds_of_proceed hr)
  · rename_i dispatch task
    unfold advanceDispatch at hs
    split at hs
    · cases hs
      exact .queue task
    · split at hs <;> rename_i held <;> cases hs
      unfold openDispatch
      split
      rename_i engine triggered observes
      cases triggered with
      | error e => exact .refuse task held observes
      | ok events => exact .spread task held observes rfl
    · obtain ⟨outcomes, known, rfl⟩ := Option.map_eq_some_iff.1 hs
      exact .gather task known
    · cases hs
  · cases hs

/-- Any number of steps of any tasks, with what they say to devices. -/
inductive Steps (backend : Backend σ) (activity : Activity σ) :
    List Contact → Activity σ → Prop
  | refl : Steps backend activity [] activity
  | tail {log : List Contact} {middle next : Activity σ} {self : Nat}
      (steps : Steps backend activity log middle) (step : middle.Step backend self next) :
      Steps backend activity (log ++ middle.contacts backend self) next

theorem Steps.head {backend : Backend σ} {activity middle next : Activity σ} {self : Nat}
    {log : List Contact} (step : activity.Step backend self middle)
    (steps : middle.Steps backend log next) :
    activity.Steps backend (activity.contacts backend self ++ log) next := by
  induction steps with
  | refl => simpa using Steps.refl.tail step
  | tail _ last ih => simpa using ih.tail last

/-- Takes steps of tasks in a given order. -/
def follow (backend : Backend σ) (activity : Activity σ) :
    List Nat → Option (List Contact × Activity σ)
  | [] => some ([], activity)
  | self :: rest =>
    (activity.advance backend self).bind fun step =>
      (follow backend step.next rest).map fun (log, next) =>
        (activity.contacts backend self ++ log, next)

theorem Steps.of_follow {backend : Backend σ} {activity next : Activity σ} {order : List Nat}
    {log : List Contact} (h : activity.follow backend order = some (log, next)) :
    activity.Steps backend log next := by
  induction order generalizing activity log with
  | nil =>
    cases h
    exact .refl
  | cons self rest ih =>
    obtain ⟨step, hs, h⟩ := Option.bind_eq_some_iff.1 h
    obtain ⟨⟨log', next'⟩, hr, h⟩ := Option.map_eq_some_iff.1 h
    cases h
    exact (ih hr).head (by simp [Step, hs])

-- ============================================================================
-- What is reached
-- ============================================================================

/-- The activities that requests and steps lead to from an engine without rules, with what was said
    to devices on the way. -/
inductive Reached (backend : Backend σ) (initial : Engine σ) : List Contact → Activity σ → Prop
  | start (empty : initial.book = {}) : Reached backend initial [] { engine := initial }
  | submit {log : List Contact} {activity : Activity σ} (request : Request)
      (reached : Reached backend initial log activity) :
      Reached backend initial log (activity.submit request)
  | advance {log : List Contact} {activity next : Activity σ} {self : Nat}
      (reached : Reached backend initial log activity)
      (step : activity.Step backend self next) :
      Reached backend initial (log ++ activity.contacts backend self) next

theorem Reached.steps {backend : Backend σ} {initial : Engine σ} {log more : List Contact}
    {activity next : Activity σ} (reached : Reached backend initial log activity)
    (steps : activity.Steps backend more next) :
    Reached backend initial (log ++ more) next := by
  induction steps with
  | refl => simpa using reached
  | tail _ step ih => simpa using ih.advance step

/-- Whether a task is over. -/
def isFinished : Task → Bool
  | .run run => run.result?.isSome
  | .dispatch ⟨_, .finished _⟩ => true
  | .dispatch _ => false

/-- No task is under way. -/
def Quiet (activity : Activity σ) : Prop := ∀ task ∈ activity.tasks, isFinished task = true

end Activity

end HomeAutomation
