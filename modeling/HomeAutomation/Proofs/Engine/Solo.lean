/-
  HomeAutomation.Proofs.Engine.Solo

  One action carried out while nothing else is under way.  The schedule has a
  single run in its queue: the run goes on until its call suspends, is brought
  back at once, finds every lock free, and ends as `Sequential.execute` says,
  however often its calls suspend.
-/

import HomeAutomation.Engine.Operation
import HomeAutomation.Proofs.Engine.Rehearsal

namespace HomeAutomation

variable {σ : Type}

namespace LockTable

/-- A lock that nobody else has asked for. -/
def IsSole (locks : LockTable) (deviceId : String) : Prop := (locks.lock deviceId).line = [0]

theorem isSole_acquire (deviceId : String) :
    IsSole (LockTable.acquire [] deviceId 0) deviceId := by
  rw [IsSole, lock_acquire, if_pos rfl]
  rfl

theorem IsSole.heldBy {locks : LockTable} {deviceId : String} (sole : locks.IsSole deviceId) :
    locks.heldBy deviceId 0 = true := by
  rw [heldBy_iff, sole]
  rfl

/-- Nobody waits for such a lock, so giving it up wakes nobody. -/
theorem IsSole.woken {locks : LockTable} {deviceId : String} (sole : locks.IsSole deviceId) :
    (locks.release deviceId).2 = none := by
  simp only [release, Lock.release, Lock.holder?]
  rw [sole]
  rfl

end LockTable

namespace Activity

variable {backend : Backend σ} {engine after : Engine σ} {locks : LockTable} {run : Run}
  {result : Except ExecuteError ExecuteResult} {target : DeviceTarget}

/-- An activity of a single run. -/
def solo (engine : Engine σ) (locks : LockTable) (run : Run) : Activity σ :=
  { engine, locks, tasks := [.run run] }

/-- A run without company ends with an engine and a result. -/
def EndsIn (backend : Backend σ) (engine : Engine σ) (locks : LockTable) (run : Run)
    (after : Engine σ) (result : Except ExecuteError ExecuteResult) : Prop :=
  (schedule backend (solo engine locks run) [0]).engine = after ∧
    (schedule backend (solo engine locks run) [0]).runOutcome 0 = result

-- ============================================================================
-- Single steps
-- ============================================================================

/-- Suspensions of a call pass one after the other. -/
theorem schedule_solo_pauses (backend : Backend σ) (engine : Engine σ) (locks : LockTable)
    (run : Run) (phase : RunPhase) (pauses : Nat) :
    schedule backend (solo engine locks (run.enter phase pauses)) [0]
      = schedule backend (solo engine locks (run.enter phase 0)) [0] := by
  induction pauses with
  | zero => rfl
  | succ pauses ih =>
    rw [← ih]
    conv => lhs; unfold schedule
    rfl

theorem EndsIn.of_pauses {phase : RunPhase} {pauses : Nat}
    (ends : EndsIn backend engine locks (run.enter phase 0) after result) :
    EndsIn backend engine locks (run.enter phase pauses) after result := by
  unfold EndsIn
  rw [schedule_solo_pauses]
  exact ends

/-- A run that is over stays as it is. -/
theorem endsIn_finished (backend : Backend σ) (engine : Engine σ) (locks : LockTable) (run : Run)
    (result : Except ExecuteError ExecuteResult) :
    EndsIn backend engine locks (run.enter (.finished result) 0) engine result := by
  have still : schedule backend (solo engine locks (run.enter (.finished result) 0)) [0]
      = solo engine locks (run.enter (.finished result) 0) := by
    unfold schedule
    exact schedule.eq_1 ..
  unfold EndsIn
  rw [still]
  exact ⟨rfl, rfl⟩

/-- A step after which a run, still without company, ends with an engine and a result. -/
structure LeadsTo (backend : Backend σ) (step : RunStep σ) (after : Engine σ)
    (result : Except ExecuteError ExecuteResult) : Prop where
  woken : step.woken = none
  orphan : step.run.parent = none
  ends : EndsIn backend step.engine step.locks step.run after result

theorem EndsIn.of_proceed {step : RunStep σ} (idle : run.pauses = 0)
    (proceeds : run.proceed backend 0 engine locks = some step)
    (leads : LeadsTo backend step after result) : EndsIn backend engine locks run after result := by
  have advances : (solo engine locks run).advance backend 0
      = some { next := solo step.engine step.locks step.run } := by
    simp [advance, solo, advanceRun, idle, proceeds, leads.woken, leads.orphan, put]
  have onward : schedule backend (solo engine locks run) [0]
      = schedule backend (solo step.engine step.locks step.run) [0] := by
    conv => lhs; unfold schedule
    split
    · rename_i stuck
      rw [advances] at stuck
      cases stuck
    · rename_i next moved
      rw [advances] at moved
      cases moved
      rfl
  unfold EndsIn
  rw [onward]
  exact leads.ends

-- ============================================================================
-- From phase to phase
-- ============================================================================

section Phases

variable (backend engine run)

/-- Giving up a lock that nobody else has asked for. -/
theorem leadsTo_leave (sole : locks.IsSole target.deviceId) (orphan : run.parent = none)
    (result : Except ExecuteError ExecuteResult) :
    LeadsTo backend (run.leave engine locks target result) engine result :=
  ⟨sole.woken, orphan, endsIn_finished ..⟩

theorem leadsTo_finish (sole : locks.IsSole target.deviceId) (orphan : run.parent = none)
    (result : Except ExecuteError ExecuteResult) :
    LeadsTo backend (run.finish engine locks target result) (run.settle engine result) result := by
  rw [Run.finish_eq_close]
  exact leadsTo_leave backend _ run sole orphan result

/-- Recording and saving a state that the device accepted. -/
theorem leadsTo_accept (sole : locks.IsSole target.deviceId) (orphan : run.parent = none)
    (state : DeviceState) (result : Except ExecuteError ExecuteResult) :
    LeadsTo backend (run.accept backend engine locks target state result)
      (run.settle (Sequential.accept engine backend target.deviceId state) result) result := by
  refine ⟨rfl, orphan, .of_pauses (.of_proceed rfl rfl ?_)⟩
  exact leadsTo_finish backend _ _ sole orphan result

/-- Sending the state before. -/
theorem endsIn_restoring (sole : locks.IsSole target.deviceId) (orphan : run.parent = none)
    (failure : CallError) {state : DeviceState}
    (known : engine.book.previous? run.action = some state) (pauses : Nat) :
    EndsIn backend (engine.startCall backend (.command target state)).1 locks
      (run.enter (.restoring target failure state) pauses)
      ((Sequential.rollback engine backend run.action target).1.setPrevious run.action none)
      (.error (.call { failure with
        rollback := some (Sequential.rollback engine backend run.action target).2 })) := by
  let restorer := run.enter (.restoring target failure state) 0
  refine .of_pauses ?_
  unfold Sequential.rollback
  rw [known]
  cases answered : (Sequential.command engine backend target state).2.restoreFailure?
      target.deviceId with
  | none =>
    simp only [answered]
    have proceeds : restorer.proceed backend 0 (engine.startCall backend (.command target state)).1
        locks = some (restorer.accept backend (Sequential.command engine backend target state).1
          locks target state
          (.error (.call { failure with rollback := some (.restored state) }))) := by
      rw [Sequential.command] at answered
      simp [restorer, Run.proceed, Run.enter, answered, Sequential.command]
    exact .of_proceed rfl proceeds (leadsTo_accept backend _ restorer sole orphan state _)
  | some reason =>
    simp only [answered]
    have proceeds : restorer.proceed backend 0 (engine.startCall backend (.command target state)).1
        locks = some (restorer.finish (Sequential.command engine backend target state).1
          locks target
          (.error (.call { failure with rollback := some (.failed state reason) }))) := by
      rw [Sequential.command] at answered
      simp [restorer, Run.proceed, Run.enter, answered, Sequential.command]
    exact .of_proceed rfl proceeds (leadsTo_finish backend _ restorer sole orphan _)

/-- Going on after a command that failed. -/
theorem leadsTo_restore (sole : locks.IsSole target.deviceId) (orphan : run.parent = none)
    (failure : CallError) :
    LeadsTo backend (run.restore backend engine locks target failure)
      ((Sequential.rollback engine backend run.action target).1.setPrevious run.action none)
      (.error (.call { failure with
        rollback := some (Sequential.rollback engine backend run.action target).2 })) := by
  cases known : engine.book.previous? run.action with
  | none =>
    simp only [Run.restore, Sequential.rollback, known]
    exact leadsTo_finish backend engine run sole orphan _
  | some state =>
    have restoring := endsIn_restoring backend engine run sole orphan failure known
    simp only [Run.restore, known]
    exact ⟨rfl, orphan, restoring _⟩

/-- Reading the device, commanding it, and what comes after. -/
theorem endsIn_reading (sole : locks.IsSole target.deviceId) (orphan : run.parent = none)
    {a : Action} (carries : run.Carries a) (pauses : Nat) :
    EndsIn backend (engine.startCall backend (.read target)).1 locks
      (run.enter (.reading target) pauses)
      (Sequential.change engine backend run.action a target).1
      (Sequential.change engine backend run.action a target).2 := by
  let reader := run.enter (.reading target) 0
  let commander := run.enter (.commanding target) 0
  let noted := (Sequential.readState engine backend target).1.setPrevious run.action
    (Sequential.readState engine backend target).2
  have reads : reader.proceed backend 0 (engine.startCall backend (.read target)).1 locks
      = some ⟨(noted.startCall backend (.command target run.desired)).1, locks,
          run.enter (.commanding target) (noted.startCall backend (.command target run.desired)).2,
          none⟩ := rfl
  refine .of_pauses (.of_proceed rfl reads ⟨rfl, orphan, .of_pauses ?_⟩)
  unfold Sequential.change
  rw [← carries.desired, ← carries.kind, ← carries.location]
  cases answered : (Sequential.command noted backend target run.desired).2.failure?
      target.deviceId with
  | none =>
    have proceeds : commander.proceed backend 0
        (noted.startCall backend (.command target run.desired)).1 locks
          = some (commander.accept backend (Sequential.command noted backend target run.desired).1
              locks target run.desired
              (.ok (.changed target run.kind run.location run.desired))) := by
      rw [Sequential.command] at answered
      simp [commander, Run.proceed, Run.enter, answered, Sequential.command]
    simp only [noted, answered]
    exact .of_proceed rfl proceeds (leadsTo_accept backend _ commander sole orphan _ _)
  | some failure =>
    have proceeds : commander.proceed backend 0
        (noted.startCall backend (.command target run.desired)).1 locks
          = some (commander.restore backend (Sequential.command noted backend target run.desired).1
              locks target failure) := by
      rw [Sequential.command] at answered
      simp [commander, Run.proceed, Run.enter, answered, Sequential.command]
    simp only [noted, answered]
    exact .of_proceed rfl proceeds (leadsTo_restore backend _ commander sole orphan failure)

end Phases

/-- Carrying an action out from the start. -/
theorem endsIn_ready (backend : Backend σ) (engine : Engine σ) {a : Action}
    (carries : run.Carries a) (ready : run.phase = .ready) (idle : run.pauses = 0)
    (orphan : run.parent = none) :
    EndsIn backend engine [] run
      (Sequential.execute engine backend run.action a run.force).1
      (Sequential.execute engine backend run.action a run.force).2 := by
  unfold Sequential.execute
  rw [← carries.location, ← carries.kind, ← carries.desired]
  cases resolved : engine.directory.resolve run.location run.kind.name with
  | error e =>
    have fails : run.proceed backend 0 engine []
        = some ⟨engine, [], run.enter (.finished (.error (.notFound e))) 0, none⟩ := by
      simp [Run.proceed, ready, resolved]
    exact .of_proceed idle fails ⟨rfl, orphan, endsIn_finished ..⟩
  | ok target =>
    let locks := LockTable.acquire [] target.deviceId 0
    let waiter := run.enter (.queued target) 0
    have sole : locks.IsSole target.deviceId := LockTable.isSole_acquire target.deviceId
    have asks : run.proceed backend 0 engine [] = some ⟨engine, locks, waiter, none⟩ := by
      simp [Run.proceed, ready, resolved, locks, waiter]
    refine .of_proceed idle asks ⟨rfl, orphan, ?_⟩
    by_cases needed : run.force || engine.isChangeNeeded target.deviceId run.desired
    · have begins : waiter.proceed backend 0 engine locks
          = some ⟨(engine.startCall backend (.read target)).1, locks,
              run.enter (.reading target) (engine.startCall backend (.read target)).2, none⟩ := by
        simp [Run.proceed, waiter, Run.enter, sole.heldBy, needed]
      simp only [needed, if_true]
      exact .of_proceed rfl begins ⟨rfl, orphan, endsIn_reading backend engine run sole orphan
        carries _⟩
    · have skips : waiter.proceed backend 0 engine locks
          = some (waiter.leave engine locks target
              (.ok (.unchanged target.deviceId run.desired))) := by
        simp [Run.proceed, waiter, Run.enter, sole.heldBy, needed]
      simp only [needed]
      exact .of_proceed rfl skips (leadsTo_leave backend engine waiter sole orphan _)

end Activity

/-- Carrying one action out under the schedule is carrying it out in sequence. -/
theorem Engine.execute_eq (engine : Engine σ) (backend : Backend σ) (id : Nat) (a : Action)
    (force : Bool) :
    engine.execute backend id a force = Sequential.execute engine backend id a force := by
  have ends : Activity.EndsIn backend engine [] (.ofAction id a force none)
      (Sequential.execute engine backend id a force).1
      (Sequential.execute engine backend id a force).2 :=
    Activity.endsIn_ready backend engine ⟨rfl, rfl, rfl⟩ rfl rfl rfl
  exact Prod.ext ends.1 ends.2

end HomeAutomation
