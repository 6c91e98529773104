/-
  HomeAutomation.Proofs.Engine.Coherence

  Records over simulated devices.  If both start out empty, what is recorded of
  a device is its state, at every moment of every run of the engine and whatever
  faults the calls meet: a device that accepts a state and its record change in
  one step, and nothing else changes either.

  So the state before a command, which is what a rollback sends, is the recorded
  one whether or not the device could be read.  An execution that fails for its
  command leaves device and record as they were when it was given the lock.
-/

import HomeAutomation.Proofs.Device.HouseCalls
import HomeAutomation.Proofs.Engine.Commands
import HomeAutomation.Proofs.Engine.SingleDispatch

namespace HomeAutomation

-- ============================================================================
-- Steps of a run
-- ============================================================================

/-- What is recorded of a device is its state. -/
def Engine.Coherent (engine : Engine House) : Prop :=
  ∀ deviceId, engine.records.get? deviceId = engine.outside.devices.states.get? deviceId

namespace Engine.Coherent

variable {engine after : Engine House} {target : DeviceTarget} {state : DeviceState}

/-- A change that leaves records and devices alone. -/
theorem congr (coherent : engine.Coherent) (records : after.records = engine.records)
    (devices : after.outside.devices = engine.outside.devices) : after.Coherent := by
  intro deviceId
  rw [records, devices]
  exact coherent deviceId

theorem startCall (coherent : engine.Coherent) (call : DeviceCall) :
    (engine.startCall House.backend call).1.Coherent :=
  coherent.congr rfl rfl

theorem readState (coherent : engine.Coherent) (target : DeviceTarget) :
    (engine.readState House.backend target).1.Coherent :=
  coherent.congr rfl (House.devices_read ..)

/-- The state before a command is what is recorded, whether or not the device could be read. -/
theorem readState_snd (coherent : engine.Coherent) (target : DeviceTarget) :
    (engine.readState House.backend target).2 = engine.records.get? target.deviceId :=
  (Engine.readState_eq ..).trans (House.stateBefore_read _ _ (coherent target.deviceId))

/-- A command that is not accepted. -/
theorem command (coherent : engine.Coherent)
    (refused : (engine.command House.backend target state).2.isAccepted = false) :
    (engine.command House.backend target state).1.Coherent := by
  obtain ⟨accepted, -⟩ | ⟨-, states⟩ := engine.outside.command_cases target state
  · cases refused.symm.trans accepted
  · intro deviceId
    exact (coherent deviceId).trans (congrArg (Table.get? · deviceId) states.symm)

/-- A command that is accepted, with its record. -/
theorem accept (coherent : engine.Coherent)
    (accepted : (engine.command House.backend target state).2.isAccepted = true) :
    ((engine.command House.backend target state).1.record target.deviceId state).Coherent := by
  obtain ⟨-, states⟩ | ⟨refused, -⟩ := engine.outside.command_cases target state
  · intro deviceId
    change (engine.records.set target.deviceId state).get? deviceId
      = (engine.outside.command target state).1.devices.states.get? deviceId
    rw [states]
    by_cases same : deviceId = target.deviceId
    · rw [same, Table.get?_set_self, Table.get?_set_self]
    · rw [Table.get?_set_ne _ _ same, Table.get?_set_ne _ _ same]
      exact coherent deviceId
  · cases accepted.symm.trans refused

end Engine.Coherent

namespace Run

variable {engine : Engine House} {locks : LockTable} {run : Run} {step : RunStep House}
  {self : Nat} {target : DeviceTarget}

/-- Every step keeps records and devices in agreement. -/
theorem Proceeds.coherent (h : run.Proceeds House.backend self engine locks step)
    (coherent : engine.Coherent) : step.engine.Coherent := by
  cases h with
  | unmapped | ask | skip => exact coherent
  | begin => exact coherent.startCall _
  | read => exact ((coherent.readState _).congr rfl rfl).startCall _
  | accept phase accepted =>
    exact (coherent.accept (CommandReply.failure?_eq_none_iff.1 accepted)).congr rfl rfl
  | abandon phase failed =>
    have refused := coherent.command (CommandReply.isAccepted_of_failure? failed)
    exact refused.congr records_settle (by rw [close, leave, outside_settle])
  | restore phase failed =>
    exact (coherent.command (CommandReply.isAccepted_of_failure? failed)).startCall _
  | restored phase accepted =>
    exact (coherent.accept (CommandReply.restoreFailure?_eq_none_iff.1 accepted)).congr rfl rfl
  | unrestored phase failed =>
    have refused := coherent.command (CommandReply.isAccepted_of_restoreFailure? failed)
    exact refused.congr records_settle (by rw [close, leave, outside_settle])
  | save phase =>
    refine coherent.congr records_settle ?_
    rw [close, leave, outside_settle]
    exact House.devices_save ..

/-- The state before that a run works with is the recorded one. -/
def Relies (run : Run) (recorded previous : Option DeviceState) : Prop :=
  match run.phase with
  | .commanding _ => previous = recorded
  | .restoring _ _ state => recorded = some state
  | _ => True

theorem relies_of_outside {recorded previous : Option DeviceState}
    (outside : run.isInside = false) :
    run.Relies recorded previous := by
  unfold Relies
  split <;> simp_all [isInside]

/-- A run works with the recorded state from reading its device on. -/
theorem Proceeds.relies (h : run.Proceeds House.backend self engine locks step)
    (coherent : engine.Coherent) {action : Action}
    (known : engine.book.action? run.action = some action)
    (relies : ∀ target, run.target? = some target →
      run.Relies (engine.records.get? target.deviceId) (engine.book.previous? run.action))
    (at_device : step.run.target? = some target) :
    step.run.Relies (step.engine.records.get? target.deviceId)
      (step.engine.book.previous? step.run.action) := by
  cases h with
  | @read found phase =>
    obtain rfl : found = target := Option.some.inj at_device
    have noted : ((engine.readState House.backend found).1.book.setPrevious run.action
        (engine.readState House.backend found).2).previous? run.action
          = (engine.readState House.backend found).2 :=
      RuleBook.previous?_setPrevious_self known _
    exact noted.trans (coherent.readState_snd found)
  | @restore found failure state phase failed before =>
    obtain rfl : found = target := Option.some.inj at_device
    have relied := relies found (by rw [target?, phase])
    rw [Relies, phase] at relied
    exact relied.symm.trans before
  | unmapped | ask | begin | skip | accept | abandon | restored | unrestored | save => trivial

/-- Whether the device of a run has taken on the desired state. -/
def hasSucceeded (run : Run) : Bool :=
  match run.phase with
  | .saving _ _ result => result.toBool
  | _ => false

/-- Whoever holds the lock of a device keeps it while runs elsewhere proceed. -/
theorem LockMove.head?_eq {locks' : LockTable} {run' : Run} {deviceId : String} {id : Nat}
    (move : LockMove self locks run locks' run') (elsewhere : run.claim? ≠ some deviceId)
    (head : (locks.lock deviceId).line.head? = some id) :
    (locks'.lock deviceId).line.head? = some id := by
  cases move with
  | keep => exact head
  | ask =>
    rw [LockTable.lock_acquire]
    split
    · obtain ⟨rest, line⟩ := List.head?_eq_some_iff.1 head
      rw [Lock.acquire, line]
      rfl
    · exact head
  | leave claim =>
    rw [LockTable.lock_release, if_neg]
    · exact head
    · rintro rfl
      exact elsewhere claim

end Run

-- ============================================================================
-- The invariant
-- ============================================================================

namespace Activity

/-- Records agree with the devices, and runs work with recorded states. -/
structure Faithful (activity : Activity House) : Prop where
  coherent : activity.engine.Coherent
  relies : ∀ {id : Nat} {run : Run} {target : DeviceTarget},
    activity.tasks[id]? = some (.run run) → run.target? = some target →
    run.Relies (activity.engine.records.get? target.deviceId)
      (activity.engine.book.previous? run.action)

/-- A step of a run leaves the note of another run that is inside alone. -/
theorem Assigned.previous?_eq {σ : Type} {activity : Activity σ} {backend : Backend σ}
    {self id : Nat} {run other : Run} {step : RunStep σ} (assigned : activity.Assigned)
    (task : activity.tasks[self]? = some (.run run))
    (proceeds : run.Proceeds backend self activity.engine activity.locks step)
    (task' : activity.tasks[id]? = some (.run other)) {deviceId : String}
    (claim : other.claim? = some deviceId) (elsewhere : run.claim? ≠ some deviceId) :
    step.engine.book.previous? other.action
      = activity.engine.book.previous? other.action := by
  by_cases action : run.action = other.action
  · rcases proceeds.book_eq_or_isInside with same | inside
    · rw [same]
    · -- two runs of one action are about one device
      obtain ⟨target, ht⟩ := Run.exists_target_of_isInside inside
      have claim' : run.claim? = some target.deviceId := by rw [Run.claim?, ht]; rfl
      obtain rfl := assigned.claim?_eq task task' action claim' claim
      exact absurd claim' elsewhere
  · exact proceeds.previous?_ne action

namespace Faithful

variable {activity next : Activity House} {self : Nat}

/-- A calm change. -/
theorem calm (faithful : activity.Faithful) (calm : activity.Calm next) : next.Faithful where
  coherent := faithful.coherent.congr calm.records (by rw [calm.outside])
  relies {id run target} task at_device := by
    by_cases inside : run.isInside = true
    · rw [calm.records, calm.book.previous?_eq]
      exact faithful.relies (calm.newcomers task inside) at_device
    · exact Run.relies_of_outside (Bool.eq_false_iff.2 inside)

theorem proceed (faithful : activity.Faithful) (kept : activity.LocksKept)
    (assigned : activity.Assigned) {run : Run} {step : RunStep House}
    (task : activity.tasks[self]? = some (.run run))
    (proceeds : run.Proceeds House.backend self activity.engine activity.locks step) :
    Faithful { activity.put self (.run step.run) with
      engine := step.engine, locks := step.locks } where
  coherent := proceeds.coherent faithful.coherent
  relies {id r target} task' at_device := by
    simp only [put, getElem?_set_task task] at task'
    split at task'
    · obtain rfl : step.run = r := by simpa using task'
      obtain ⟨plan, hplan, -⟩ := assigned.carries task
      obtain ⟨action, known, -⟩ := Option.map_eq_some_iff.1 hplan
      exact proceeds.relies faithful.coherent known (fun _ => faithful.relies task) at_device
    · rename_i hid
      by_cases inside : r.isInside = true
      · have claim : r.claim? = some target.deviceId := by rw [Run.claim?, at_device]; rfl
        have elsewhere : run.claim? ≠ some target.deviceId := by
          intro claim'
          have head := head_of_proceeds kept task proceeds claim'
          have holds := (kept target.deviceId).inside_holds id (inside_of_task task' inside claim)
          exact hid (Option.some.inj (holds.symm.trans head))
        rw [assigned.previous?_eq task proceeds task' claim elsewhere, proceeds.records_ne]
        · exact faithful.relies task' at_device
        · rintro found ht same
          exact elsewhere (by rw [Run.claim?, ht, same]; rfl)
      · exact Run.relies_of_outside (Bool.eq_false_iff.2 inside)

theorem step (faithful : activity.Faithful) (kept : activity.LocksKept)
    (assigned : activity.Assigned) (h : activity.Advances House.backend self next) :
    next.Faithful := by
  cases id h with
  | @pause run pauses task busy =>
    refine ⟨faithful.coherent, fun {id r target} task' at_device => ?_⟩
    rw [put, getElem?_set_task task] at task'
    split at task'
    · obtain rfl : { run with pauses } = r := by simpa using task'
      have same : run.target? = some target := at_device
      have relied := faithful.relies task same
      exact relied
    · exact faithful.relies task' at_device
  | run task idle proceeds => exact faithful.proceed kept assigned task proceeds
  | queue task | refuse task | spread task | gather task =>
    exact faithful.calm (.of_dispatch h task)

end Faithful

theorem Reached.faithful {initial : Engine House} {log : List Contact} {activity : Activity House}
    (reached : Reached House.backend initial log activity) (unrecorded : initial.records = [])
    (unset : initial.outside.devices.states = []) : activity.Faithful := by
  induction reached with
  | start empty =>
    refine ⟨fun deviceId => ?_, by simp⟩
    rw [unrecorded, unset]
  | submit request reached ih => exact ih.calm (.submit _ request)
  | advance reached step ih => exact ih.step reached.locksKept reached.assigned step.advances

-- ============================================================================
-- From being given the lock to the end
-- ============================================================================

theorem Reached.later {σ : Type} {backend : Backend σ} {initial : Engine σ}
    {log more : List Contact} {activity next : Activity σ}
    (reached : Reached backend initial log activity) (later : activity.Later backend more next) :
    Reached backend initial (log ++ more) next := by
  induction later with
  | refl => simpa using reached
  | submit request later ih => exact ih.submit request
  | advance later step ih => simpa using ih.advance step

/-- Unless it is over, a run holds the lock of a device, and the record of the device is a given
    one until the device has taken on the desired state. -/
def Unmoved (activity : Activity House) (id : Nat) (deviceId : String)
    (recorded : Option DeviceState) : Prop :=
  ∃ run : Run, activity.tasks[id]? = some (.run run) ∧ (run.result? = none →
    run.claim? = some deviceId ∧ (activity.locks.lock deviceId).line.head? = some id ∧
      (run.hasSucceeded = false → activity.engine.records.get? deviceId = recorded))

namespace Unmoved

variable {activity next : Activity House} {self id : Nat} {deviceId : String}
  {recorded : Option DeviceState}

/-- A calm change that leaves the locks alone. -/
theorem calm (unmoved : activity.Unmoved id deviceId recorded) (calm : activity.Calm next)
    (locks : next.locks = activity.locks) : next.Unmoved id deviceId recorded := by
  obtain ⟨run, task, pending⟩ := unmoved
  refine ⟨run, calm.stays task, ?_⟩
  rw [locks, calm.records]
  exact pending

/-- A step of the run itself. -/
theorem proceed_self (unmoved : activity.Unmoved id deviceId recorded)
    (faithful : activity.Faithful) {run : Run} {step : RunStep House}
    (task : activity.tasks[id]? = some (.run run))
    (proceeds : run.Proceeds House.backend id activity.engine activity.locks step) :
    Unmoved { activity.put id (.run step.run) with engine := step.engine, locks := step.locks }
      id deviceId recorded := by
  obtain ⟨own, task', pending⟩ := unmoved
  obtain rfl : run = own := by simpa [task] using task'
  refine ⟨step.run, by simp only [put, getElem?_set_task task, if_true], fun unfinished => ?_⟩
  obtain ⟨claim, head, unchanged⟩ := pending proceeds.result?_eq_none
  have relies {target : DeviceTarget} (ht : run.target? = some target) :=
    faithful.relies task ht
  cases proceeds with
  | unmapped phase | ask phase => simp [Run.claim?, Run.target?, phase] at claim
  | skip | abandon | unrestored | save => cases unfinished
  | begin phase | read phase | restore phase =>
    refine ⟨?_, head, fun _ => unchanged (by rw [Run.hasSucceeded, phase])⟩
    rw [← claim, Run.claim?, Run.claim?, Run.target?, Run.target?, phase]
    rfl
  | accept phase =>
    refine ⟨?_, head, fun failed => by cases failed⟩
    rw [← claim, Run.claim?, Run.claim?, Run.target?, Run.target?, phase]
    rfl
  | @restored target failure state phase =>
    obtain rfl : target.deviceId = deviceId := by simpa [Run.claim?, Run.target?, phase] using claim
    refine ⟨rfl, head, fun _ => ?_⟩
    -- the state that was restored is the recorded one
    have at_device : run.target? = some target := by rw [Run.target?, phase]
    have relied := relies at_device
    rw [Run.Relies, phase] at relied
    rw [← unchanged (by rw [Run.hasSucceeded, phase]), relied]
    exact Table.get?_set_self ..

/-- A step of another run. -/
theorem proceed_other (unmoved : activity.Unmoved id deviceId recorded) (other : id ≠ self)
    (kept : activity.LocksKept) {run : Run} {step : RunStep House}
    (task : activity.tasks[self]? = some (.run run))
    (proceeds : run.Proceeds House.backend self activity.engine activity.locks step) :
    Unmoved { activity.put self (.run step.run) with engine := step.engine, locks := step.locks }
      id deviceId recorded := by
  obtain ⟨waiting, task', pending⟩ := unmoved
  refine ⟨waiting, by simp only [put, getElem?_set_task task, if_neg other, task'],
    fun unfinished => ?_⟩
  obtain ⟨claim, head, unchanged⟩ := pending unfinished
  have elsewhere : run.claim? ≠ some deviceId := by
    intro claim'
    exact other (Option.some.inj (head.symm.trans (head_of_proceeds kept task proceeds claim')))
  refine ⟨claim, proceeds.lockMove.head?_eq elsewhere head, fun failed => ?_⟩
  rw [proceeds.records_ne, unchanged failed]
  rintro target ht rfl
  exact elsewhere (by rw [Run.claim?, ht]; rfl)

theorem step (unmoved : activity.Unmoved id deviceId recorded) (faithful : activity.Faithful)
    (kept : activity.LocksKept) (h : activity.Advances House.backend self next) :
    next.Unmoved id deviceId recorded := by
  have advances := h
  cases advances with
  | @pause run pauses task busy =>
    obtain ⟨own, task', pending⟩ := unmoved
    by_cases same : id = self
    · subst same
      obtain rfl : run = own := by simpa [task] using task'
      exact ⟨{ run with pauses }, by rw [put, getElem?_set_task task, if_pos rfl], pending⟩
    · exact ⟨own, by rw [put, getElem?_set_task task, if_neg same, task'], pending⟩
  | run task idle proceeds =>
    by_cases same : id = self
    · subst same
      exact unmoved.proceed_self faithful task proceeds
    · exact unmoved.proceed_other same kept task proceeds
  | queue task | refuse task | spread task | gather task =>
    exact unmoved.calm (.of_dispatch h task) rfl

theorem later (unmoved : activity.Unmoved id deviceId recorded) {initial : Engine House}
    {log more : List Contact} (reached : Reached House.backend initial log activity)
    (unrecorded : initial.records = []) (unset : initial.outside.devices.states = [])
    (later : activity.Later House.backend more next) : next.Unmoved id deviceId recorded := by
  induction later with
  | refl => exact unmoved
  | submit request later ih => exact ih.calm (.submit _ request) rfl
  | advance later step ih =>
    have reached := reached.later later
    exact ih.step (reached.faithful unrecorded unset) reached.locksKept step.advances

end Unmoved

/-- The record of a device after the step in which a run at it ends with a command that failed. -/
theorem Unmoved.records_eq {activity next : Activity House} {id : Nat} {deviceId : String}
    {recorded : Option DeviceState} (unmoved : activity.Unmoved id deviceId recorded)
    (h : activity.Step House.backend id next) (unfinished : activity.runResult? id = none)
    {failure : CallError} (failed : next.runResult? id = some (.error (.call failure))) :
    next.engine.records.get? deviceId = recorded := by
  obtain ⟨run, task, pending⟩ := unmoved
  cases h.advances with
  | @pause own pauses task' busy =>
    obtain rfl : run = own := by simpa [task] using task'
    have same : (activity.put id (.run { run with pauses })).runResult? id
        = activity.runResult? id := by
      simp only [runResult?, put, getElem?_set_task task, if_true, task]
      rfl
    rw [same, unfinished] at failed
    cases failed
  | @run own step task' idle proceeds =>
    obtain rfl : run = own := by simpa [task] using task'
    obtain ⟨-, -, unchanged⟩ := pending proceeds.result?_eq_none
    have result : step.run.result? = some (.error (.call failure)) := by
      simpa [runResult?, put, getElem?_set_task task] using failed
    cases proceeds with
    | unmapped | skip | ask | begin | read | accept | restore | restored => cases result
    | abandon phase | unrestored phase =>
      rw [← unchanged (by rw [Run.hasSucceeded, phase])]
      simp [Run.close, Run.leave]
    | @save target state outcome phase =>
      obtain rfl : outcome = .error (.call failure) := Option.some.inj result
      rw [← unchanged (by rw [Run.hasSucceeded, phase]; rfl)]
      simp [Run.close, Run.leave]
  | queue task' | refuse task' | spread task' | gather task' => cases task.symm.trans task'

/-- Simulated devices and records that both start empty, on any run of the engine and whatever
    faults the calls meet.  At every moment, and so whenever the lock of a device is free, the
    record of a device and its state are both absent or both present and equal.  And an execution
    that ends with a command that failed, whatever became of the rollback, leaves both as they were
    at any moment since it was given the lock of the device. -/
theorem Reached.devices_as_recorded {initial : Engine House} {log : List Contact}
    {activity : Activity House} (reached : Reached House.backend initial log activity)
    (unrecorded : initial.records = []) (unset : initial.outside.devices.states = []) :
    (∀ deviceId, activity.engine.records.get? deviceId
      = activity.engine.outside.devices.states.get? deviceId) ∧
    ∀ {id : Nat} {run : Run} {target : DeviceTarget} {since : List Contact}
        {last after : Activity House} {failure : CallError},
      activity.tasks[id]? = some (.run run) → run.target? = some target →
      activity.locks.heldBy target.deviceId id = true →
      activity.Later House.backend since last → last.runResult? id = none →
      last.Step House.backend id after →
      after.runResult? id = some (.error (.call failure)) →
      after.engine.records.get? target.deviceId
          = activity.engine.records.get? target.deviceId ∧
        after.engine.outside.devices.states.get? target.deviceId
          = activity.engine.outside.devices.states.get? target.deviceId := by
  have coherent := (reached.faithful unrecorded unset).coherent
  refine ⟨coherent, fun {id run target since last after failure} task at_device held later
    unfinished step failed => ?_⟩
  have unmoved : activity.Unmoved id target.deviceId
      (activity.engine.records.get? target.deviceId) :=
    ⟨run, task, fun _ => ⟨by rw [Run.claim?, at_device]; rfl, LockTable.heldBy_iff.1 held,
      fun _ => rfl⟩⟩
  have record := (unmoved.later reached unrecorded unset later).records_eq step unfinished failed
  have ended := ((reached.later later).advance step).faithful unrecorded unset
  refine ⟨record, ?_⟩
  rw [← ended.coherent, ← coherent, record]

theorem Steps.later {σ : Type} {backend : Backend σ} {activity next : Activity σ}
    {log : List Contact} (steps : activity.Steps backend log next) :
    activity.Later backend log next := by
  induction steps with
  | refl => exact .refl
  | tail _ step ih => exact ih.advance step

/-- A hall whose lamp is to be switched on and then off, which it will refuse; its state cannot be
    read by then, and giving it back fails too. -/
def stubbornHall : Activity House :=
  let house := (({} : House).scriptReads "lamp" [none, some "dark"]).scriptCommands "lamp"
    [none, some (.refuses 503 (.text "busy")), some (.breaks "gone")]
  let engine : Engine House :=
    { directory := .ofRooms [⟨"hall", .null, [⟨"lamp", .null, "light", "hall"⟩]⟩]
      range := ⟨16, 30⟩
      outside := house }
  (((({ engine } : Activity _).submit (.register "if motion in hall then light on" none)).submit
    (.register "if no motion in hall then light off" none)).submit (.execute 0 false)).submit
    (.execute 1 false)

/-- The message of a command that failed. -/
def failureMessage? : Except ExecuteError ExecuteResult → Option String
  | .error (.call failure) => some failure.message
  | _ => none

/-- What the second execution claims, whether it has the lock, how it has ended, and the power of
    the lamp by its record. -/
structure StubbornView where
  claim : Option String
  holds : Bool
  ended : Option (Option String)
  power : Option Bool
  deriving DecidableEq

def stubbornView (activity : Activity House) : StubbornView where
  claim := activity.claim? 1
  holds := activity.locks.heldBy "lamp" 1
  ended := (activity.runResult? 1).map failureMessage?
  power := (activity.engine.records.get? "lamp").map (·.power)

/-- The lamp stays on, and is recorded to be on. -/
theorem devices_as_recorded_stubbornHall :
    ∃ (initial : Engine House) (log : List Contact) (held end_ : Activity House)
      (failure : CallError),
      Reached House.backend initial log held ∧ held.locks.heldBy "lamp" 1 = true ∧
        end_.runResult? 1 = some (.error (.call failure)) ∧ failure.message = "busy" ∧
        (held.engine.records.get? "lamp").map (·.power) = some true ∧
        end_.engine.records.get? "lamp" = held.engine.records.get? "lamp" ∧
        end_.engine.outside.devices.states.get? "lamp"
          = held.engine.outside.devices.states.get? "lamp" := by
  have view : ((stubbornHall.follow House.backend [0, 0, 0, 0, 0, 1]).bind fun f =>
        (f.2.follow House.backend [1, 1, 1]).bind fun g =>
          (g.2.follow House.backend [1]).map fun h =>
            [stubbornView f.2, stubbornView g.2, stubbornView h.2])
      = some [⟨some "lamp", true, none, some true⟩, ⟨some "lamp", true, none, some true⟩,
          ⟨none, false, some (some "busy"), some true⟩] := by decide +kernel
  obtain ⟨⟨log, held⟩, toHeld, view⟩ := Option.bind_eq_some_iff.1 view
  obtain ⟨⟨since, last⟩, toLast, view⟩ := Option.bind_eq_some_iff.1 view
  obtain ⟨⟨final, end_⟩, toEnd, view⟩ := Option.map_eq_some_iff.1 view
  obtain ⟨atHeld, view⟩ := List.cons_eq_cons.1 view
  obtain ⟨atLast, view⟩ := List.cons_eq_cons.1 view
  obtain ⟨atEnd, -⟩ := List.cons_eq_cons.1 view
  obtain ⟨claim, holds, -, power⟩ := StubbornView.mk.inj atHeld
  obtain ⟨-, -, unfinished, -⟩ := StubbornView.mk.inj atLast
  obtain ⟨-, -, ended, -⟩ := StubbornView.mk.inj atEnd
  obtain ⟨_ | dispatch, task, claims⟩ := Option.bind_eq_some_iff.1 claim
  case dispatch => cases claims
  obtain ⟨target, at_device, lamp⟩ := Option.map_eq_some_iff.1 claims
  obtain ⟨result, result?, message⟩ := Option.map_eq_some_iff.1 ended
  obtain ⟨failure, rfl, busy⟩ : ∃ failure, result = .error (.call failure) ∧
      failure.message = "busy" := by
    rcases result with (_ | failure) | _
    · cases message
    · exact ⟨failure, rfl, Option.some.inj message⟩
    · cases message
  have step : last.Step House.backend 1 end_ := by
    obtain ⟨next, advanced, same⟩ := Option.bind_eq_some_iff.1 toEnd
    cases same
    simp [Step, advanced]
  have reached : Reached House.backend _ _ held :=
    (((((Reached.start rfl).submit _).submit _).submit _).submit _).steps (.of_follow toHeld)
  obtain ⟨-, untouched⟩ := reached.devices_as_recorded rfl rfl
  obtain ⟨record, state⟩ := untouched task at_device (by rw [lamp]; exact holds)
    (Steps.of_follow toLast).later (Option.map_eq_none_iff.1 unfinished) step result?
  rw [lamp] at record state
  exact ⟨_, _, held, end_, failure, reached, holds, result?, busy, power, record, state⟩

end Activity

end HomeAutomation
