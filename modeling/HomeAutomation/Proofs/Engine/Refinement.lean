/-
  HomeAutomation.Proofs.Engine.Refinement

  Snapshots dispatched side by side and one after the other.  Tasks that start
  in order never get stuck, every run of them ends, and whatever the order of
  steps was, the results, the calls that each device was given, the records, the
  saved states and the events are those of the engine without concurrency.
-/

import Mathlib.Data.Nat.Find
import HomeAutomation.Proofs.Engine.Stage

namespace HomeAutomation

variable {σ δ : Type}

/-- A run that has started and is not over has claimed its device. -/
theorem Run.exists_claim {run : Run} (working : run.result? = none)
    (started : run.isReady = false) : ∃ d, run.claim? = some d := by
  unfold isReady at started
  unfold result? at working
  unfold claim? target?
  split at started <;> simp_all
  split <;> simp_all

namespace Activity

-- ============================================================================
-- Progress
-- ============================================================================

variable {backend : Backend σ} {activity next : Activity σ} {self : Nat}

theorem exists_step (h : (activity.advance backend self).isSome = true) :
    ∃ next, activity.Step backend self next := by
  obtain ⟨step, hstep⟩ := Option.isSome_iff_exists.1 h
  exact ⟨step.next, by rw [Step, hstep]; rfl⟩

/-- A run that is not over goes on, unless it waits for a lock. -/
theorem exists_step_run {run : Run} (task : activity.tasks[self]? = some (.run run))
    (working : run.result? = none)
    (held : ∀ target, run.phase = .queued target →
      activity.locks.heldBy target.deviceId self = true) :
    ∃ next, activity.Step backend self next := by
  refine exists_step ?_
  rw [advance, task]
  dsimp only
  unfold advanceRun
  split
  · rfl
  · rw [Option.isSome_map]
    unfold Run.proceed
    split
    · split <;> rfl
    · rename_i target phase
      rw [if_pos (held target phase)]
      split <;> rfl
    · rfl
    · dsimp only
      split <;> rfl
    · dsimp only
      split <;> rfl
    · rfl
    · rename_i result phase
      rw [Run.result?, phase] at working
      cases working

/-- Steps do not go on for ever. -/
theorem wellFounded_step (backend : Backend σ) :
    WellFounded fun next activity : Activity σ => ∃ id, activity.Step backend id next := by
  have lex := (Prod.lex Nat.lt_wfRel (Prod.lex Nat.lt_wfRel Nat.lt_wfRel)).wf
  refine Subrelation.wf (fun {next activity} h => ?_) (InvImage.wf (fun activity : Activity σ =>
    (total Task.unopened activity.tasks, total Task.remaining activity.tasks,
      total Task.pauses activity.tasks)) lex)
  obtain ⟨id, step⟩ := h
  obtain ⟨advanced, hadvanced, rfl⟩ := Option.map_eq_some_iff.1 step
  exact closer_advance hadvanced

/-- The holder of the lock of a device goes on. -/
theorem LocksKept.exists_step (kept : activity.LocksKept) {id : Nat} {d : String}
    (claim : activity.claim? id = some d) : ∃ holder next, activity.Step backend holder next := by
  have waits := ((kept d).mem_line id).2 claim
  cases hline : (activity.locks.lock d).line with
  | nil =>
    rw [hline] at waits
    cases waits
  | cons holder rest =>
    have claims := ((kept d).mem_line holder).1 (by rw [hline]; exact List.mem_cons_self)
    obtain ⟨task, found, claims⟩ := Option.bind_eq_some_iff.1 claims
    cases task with
    | dispatch => cases claims
    | run run =>
      obtain ⟨target, ht, rfl⟩ := Option.map_eq_some_iff.1 claims
      have working : run.result? = none := by
        by_contra isOver
        obtain ⟨result, hresult⟩ := Option.ne_none_iff_exists'.1 isOver
        rw [Run.target?, Run.phase_of_result? hresult] at ht
        cases ht
      refine ⟨holder, exists_step_run found working fun target' phase => ?_⟩
      obtain rfl : target = target' := by
        rw [Run.target?, phase] at ht
        exact (Option.some.inj ht).symm
      rw [LockTable.heldBy_iff, hline]
      rfl

/-- A task that has not started can. -/
theorem exists_step_of_isReady {task : Task} (found : activity.tasks[self]? = some task)
    (ready : task.isReady = true) : ∃ next, activity.Step backend self next := by
  cases task with
  | run run =>
    have phase : run.phase = .ready := by
      unfold Task.isReady Run.isReady at ready
      dsimp only at ready
      split at ready
      · assumption
      · cases ready
    refine exists_step_run found (by rw [Run.result?, phase]) fun target queued => ?_
    cases phase.symm.trans queued
  | dispatch d =>
    obtain ⟨snapshot, phase⟩ := d
    cases phase with
    | ready => exact exists_step (by rw [advance, found]; rfl)
    | queued | gathering | finished => cases ready

/-- Outcomes are known once the runs are over. -/
theorem exists_outcomes {slots : List Slot}
    (ended : ∀ slot ∈ slots, ∀ id, slot.run = some id →
      ∃ run, activity.tasks[id]? = some (.run run) ∧ run.result? ≠ none) :
    ∃ outcomes, activity.outcomes? slots = some outcomes := by
  induction slots with
  | nil => exact ⟨[], rfl⟩
  | cons slot slots ih =>
    obtain ⟨rest, hrest⟩ := ih fun slot hslot => ended slot (List.mem_cons_of_mem _ hslot)
    obtain ⟨outcome, houtcome⟩ : ∃ outcome, activity.outcome? slot = some outcome := by
      unfold outcome?
      split
      · exact ⟨_, rfl⟩
      · rename_i id hid
        obtain ⟨run, task, isOver⟩ := ended slot List.mem_cons_self id hid
        obtain ⟨result, hresult⟩ := Option.ne_none_iff_exists'.1 isOver
        exact ⟨_, by rw [runResult?, task]; dsimp only; rw [hresult]; rfl⟩
    exact ⟨_, outcomes?_cons.2 ⟨outcome, rest, houtcome, hrest, rfl⟩⟩

section Refinement

variable {behavior : DeviceBehavior δ} {savePauses : Nat → Nat}
  {activity next : Activity (Devices δ)} {base : Nat} {last : Engine (Devices δ)}
  {results : List (Except DispatchError (List ActionOutcome))}

/-- The dispatch whose turn it is goes on once all runs are over. -/
theorem Stage.exists_step (stage : Stage behavior savePauses base last results activity)
    (isOver : activity.RunsOver) {holder : Nat} {task : Task}
    (head : activity.snapshotLock.line.head? = some holder)
    (found : activity.tasks[holder]? = some task) (inLine : task.isInLine = true) :
    ∃ next, activity.Step (behavior.backend savePauses) holder next := by
  have held : activity.snapshotLock.heldBy holder = true := by
    simp [Lock.heldBy, Lock.holder?, head]
  cases task with
  | run run => cases inLine
  | dispatch d =>
    obtain ⟨snapshot, phase⟩ := d
    cases phase with
    | ready | finished => cases inLine
    | queued => exact Activity.exists_step (by simp [advance, found, advanceDispatch, held])
    | gathering slots =>
      cases stage with
      | between ahead split returned turns awaiting ended alike cells =>
        exact absurd found (Between.not_gathering ⟨turns, awaiting⟩ head)
      | within ahead split returned turns awaiting gathering forecast reports alike =>
        obtain ⟨rfl, -⟩ := turns_head turns head
        rw [found] at gathering
        cases gathering
        obtain ⟨outcomes, known⟩ := exists_outcomes fun slot hslot id hid => by
          obtain ⟨run, task, -⟩ := forecast.settled slot hslot id hid
          exact ⟨run, task, isOver id run task⟩
        exact Activity.exists_step (by simp [advance, found, advanceDispatch, known])

/-- A dispatch that has started and is not over has its turn or waits for it. -/
theorem isInLine_of_working (isOver : activity.RunsOver) {id : Nat} {task : Task}
    (found : activity.tasks[id]? = some task) (started : task.isReady = false)
    (working : isFinished task ≠ true) : task.isInLine = true := by
  cases task with
  | run run => exact absurd (Option.isSome_iff_ne_none.2 (isOver id run found)) working
  | dispatch d =>
    obtain ⟨snapshot, phase⟩ := d
    cases phase with
    | ready => cases started
    | finished result => exact absurd rfl working
    | queued | gathering => rfl

/-- As long as a task is under way, one can go on in order. -/
theorem Stage.progress (stage : Stage behavior savePauses base last results activity)
    {initial : Engine (Devices δ)} {log : List Contact}
    (reached : Reached (behavior.backend savePauses) initial log activity) :
    activity.Quiet ∨ ∃ id next, activity.OrderedStep (behavior.backend savePauses) id next := by
  by_cases unstarted : ∃ id, activity.has Task.isReady id = true
  · -- the first of the tasks that have not started
    obtain ⟨task, found, ready⟩ := has_iff.1 (Nat.find_spec unstarted)
    obtain ⟨next, step⟩ : ∃ next,
        activity.Step (behavior.backend savePauses) (Nat.find unstarted) next :=
      exists_step_of_isReady found ready
    exact .inr ⟨_, next, step, fun _ id hid => Bool.eq_false_iff.2 (Nat.find_min unstarted hid)⟩
  · have inOrder {id : Nat} {next : Activity (Devices δ)}
        (step : activity.Step (behavior.backend savePauses) id next) :
        activity.OrderedStep (behavior.backend savePauses) id next :=
      ⟨step, fun ready => absurd ⟨id, ready⟩ unstarted⟩
    have started {id : Nat} {task : Task} (found : activity.tasks[id]? = some task) :
        task.isReady = false :=
      Bool.eq_false_iff.2 fun ready => unstarted ⟨id, has_iff.2 ⟨task, found, ready⟩⟩
    by_cases isOver : activity.RunsOver
    · refine or_iff_not_imp_left.2 fun busy => ?_
      obtain ⟨task, hmem, working⟩ : ∃ task ∈ activity.tasks, isFinished task ≠ true := by
        simpa [Quiet] using busy
      obtain ⟨id, found⟩ := List.mem_iff_getElem?.1 hmem
      have inLine : task.isInLine = true := isInLine_of_working isOver found (started found) working
      have waits := (reached.turnsKept.mem_line id).2 (has_iff.2 ⟨task, found, inLine⟩)
      obtain ⟨holder, head⟩ : ∃ holder, activity.snapshotLock.line.head? = some holder :=
        ⟨_, List.head?_eq_some_head (List.ne_nil_of_mem waits)⟩
      obtain ⟨task', found', inLine'⟩ := has_iff.1
        ((reached.turnsKept.mem_line holder).1 (List.mem_of_head? head))
      obtain ⟨next, step⟩ := stage.exists_step isOver head found' inLine'
      exact ⟨holder, next, inOrder step⟩
    · obtain ⟨id, run, found, working⟩ : ∃ (id : Nat) (run : Run),
          activity.tasks[id]? = some (.run run) ∧ run.result? = none := by
        simpa [RunsOver] using isOver
      obtain ⟨d, claim⟩ := Run.exists_claim working (started found)
      obtain ⟨holder, next, step⟩ := reached.locksKept.exists_step
        (by rw [Activity.claim?, found]; exact claim)
      exact .inr ⟨holder, next, inOrder step⟩

/-- Whatever has been done, the tasks can be brought to their ends in order. -/
theorem Stage.exists_end (stage : Stage behavior savePauses base last results activity)
    {initial : Engine (Devices δ)} {log : List Contact}
    (reached : Reached (behavior.backend savePauses) initial log activity) :
    ∃ end_, activity.OrderedSteps (behavior.backend savePauses) end_ ∧ end_.Quiet := by
  induction activity using (wellFounded_step (behavior.backend savePauses)).induction
    generalizing log with
  | h activity ih =>
    rcases stage.progress reached with quiet | ⟨id, next, step⟩
    · exact ⟨activity, .refl, quiet⟩
    · obtain ⟨end_, steps, quiet⟩ := ih next ⟨id, step.step⟩ (stage.step reached step.timely)
        (reached.advance step.step)
      exact ⟨end_, steps.head step, quiet⟩

/-- Timely steps lead from stage to stage. -/
theorem TimelySteps.stage
    (steps : activity.TimelySteps (behavior.backend savePauses) next)
    (stage : Stage behavior savePauses base last results activity)
    {initial : Engine (Devices δ)} {log : List Contact}
    (reached : Reached (behavior.backend savePauses) initial log activity) :
    Stage behavior savePauses base last results next := by
  induction steps with
  | refl => exact stage
  | tail steps step ih =>
    obtain ⟨more, steps⟩ := steps.steps
    exact ih.step (reached.steps steps) step

theorem OrderedSteps.stage
    (steps : activity.OrderedSteps (behavior.backend savePauses) next)
    (stage : Stage behavior savePauses base last results activity)
    {initial : Engine (Devices δ)} {log : List Contact}
    (reached : Reached (behavior.backend savePauses) initial log activity) :
    Stage behavior savePauses base last results next :=
  steps.timely.stage stage reached

end Refinement

end Activity

-- ============================================================================
-- Devices that keep a log
-- ============================================================================

/-- A device with the calls it was given and the state that was last saved for it. -/
structure Logged (δ : Type) where
  device : δ
  calls : List DeviceCall := []
  mirrored : Option DeviceState := none

/-- Devices that work as before and keep a log. -/
def DeviceBehavior.logged (behavior : DeviceBehavior δ) : DeviceBehavior (Logged δ) where
  startCall call s :=
    let (device, pauses) := behavior.startCall call s.device
    ({ s with device, calls := s.calls ++ [call] }, pauses)
  read target s :=
    let (device, reply) := behavior.read target s.device
    ({ s with device }, reply)
  command target state s :=
    let (device, reply) := behavior.command target state s.device
    ({ s with device }, reply)
  save state s :=
    let (device, saved) := behavior.save state s.device
    ({ s with device, mirrored := if saved then some state else s.mirrored }, saved)

/-- What is ahead of a device that does as a script says. -/
structure Script where
  /-- How often its calls suspend. -/
  pauses : List Nat := []
  reads : List ReadReply := []
  answers : List CommandReply := []

/-- Devices that do as their scripts say. -/
def DeviceBehavior.scripted : DeviceBehavior Script where
  startCall _ s := ({ s with pauses := s.pauses.tail }, s.pauses.headD 0)
  read _ s := ({ s with reads := s.reads.tail }, s.reads.headD .unknown)
  command _ _ s := ({ s with answers := s.answers.tail }, s.answers.headD (.failed "no answer"))
  save _ s := (s, true)

/-- Whether a call turns a device on or off; a call that reads does neither. -/
def DeviceCall.power? : DeviceCall → Option Bool
  | read _ => none
  | command _ state => some state.power

theorem Sequential.length_dispatchAll (backend : Backend σ) (engine : Engine σ)
    (snapshots : List Json) :
    (dispatchAll backend engine snapshots).2.length = snapshots.length := by
  induction snapshots generalizing engine with
  | nil => rfl
  | cons snapshot rest ih =>
    rw [dispatchAll]
    exact congrArg (· + 1) (ih _)

namespace Activity

/-- Tasks from a number on have come to what the engine without concurrency comes to: the result of
    each snapshot, and for each device the calls it was given, its record and its saved state, and
    the states and values of all events. -/
structure Agrees (activity : Activity (Devices (Logged δ))) (first count : Nat)
    (sequential : Engine (Devices (Logged δ)) × List (Except DispatchError (List ActionOutcome))) :
    Prop where
  results : (List.range' first count).map activity.dispatchResult? = sequential.2.map some
  calls : ∀ d, (activity.engine.outside.device d).calls = (sequential.1.outside.device d).calls
  records : ∀ d, activity.engine.records.get? d = sequential.1.records.get? d
  mirrored : ∀ d,
    (activity.engine.outside.device d).mirrored = (sequential.1.outside.device d).mirrored
  events : activity.engine.book.events = sequential.1.book.events

/-- Snapshots that are submitted together when nothing is under way are dispatched as by the engine
    without concurrency, one after the other in the order of submission, whose actions are carried
    out strictly one after the other: by any order of steps in which tasks start in the order of
    their numbers, whatever each device answers and however often its calls suspend.  Such steps can
    always be continued until all tasks are over. -/
theorem Reached.refines_sequential {behavior : DeviceBehavior δ} {savePauses : Nat → Nat}
    {initial : Engine (Devices (Logged δ))} {log : List Contact}
    {quiet activity : Activity (Devices (Logged δ))} {snapshots : List Json}
    (reached : Reached (behavior.logged.backend savePauses) initial log quiet)
    (isOver : quiet.Quiet)
    (steps : (quiet.processAll snapshots).OrderedSteps (behavior.logged.backend savePauses)
      activity) :
    (∃ end_, activity.OrderedSteps (behavior.logged.backend savePauses) end_ ∧ end_.Quiet) ∧
      (activity.Quiet → activity.Agrees quiet.tasks.length snapshots.length
        (Sequential.dispatchAll (behavior.logged.backend savePauses) quiet.engine snapshots)) := by
  have submitted := reached.processAll snapshots
  have stage := steps.stage (reached.stage isOver snapshots) submitted
  obtain ⟨more, taken⟩ := steps.steps
  refine ⟨stage.exists_end (submitted.steps taken), fun finished => ?_⟩
  obtain ⟨returned, alike, cells⟩ := stage.of_quiet finished
  have cell (d : String) := congrFun cells d
  refine ⟨List.ext_getElem? fun i => ?_, fun d => ?_, fun d => congrArg Cell.recorded (cell d),
    fun d => ?_, alike.events.symm⟩
  · have length := Sequential.length_dispatchAll (behavior.logged.backend savePauses) quiet.engine
      snapshots
    rw [List.getElem?_map, List.getElem?_map]
    rcases Nat.lt_or_ge i snapshots.length with hi | hi
    · have result := List.getElem?_eq_getElem (length ▸ hi)
      rw [List.getElem?_range' hi, result, Nat.one_mul]
      exact congrArg some (returned i _ result)
    · rw [List.getElem?_eq_none (by simpa using hi), List.getElem?_eq_none (by omega)]
      rfl
  · exact congrArg (fun c => c.device.calls) (cell d)
  · exact congrArg (fun c => c.device.mirrored) (cell d)

/-- A hall with a lamp that is off and answers by a script: it has no power at first. -/
def unpoweredHall : Activity (Devices (Logged Script)) :=
  let accepts : CommandReply := .answered { success := true, status := 200 }
  let lamp : Script :=
    ⟨[2, 0, 1], [.state { power := false }], [.failed "no power", accepts, accepts]⟩
  let engine : Engine (Devices (Logged Script)) :=
    { directory := .ofRooms [⟨"hall", .null, [⟨"lamp", .null, "light", "hall"⟩]⟩]
      range := ⟨16, 30⟩
      outside := { device := fun _ => { device := lamp } } }
  (({ engine } : Activity _).submit
    (.register "if motion in hall then light on" (some "on"))).submit
      (.register "if no motion in hall then light off" (some "off"))

/-- A snapshot of motion in the hall. -/
def motion (moving : Bool) : Json := .object [("motion", .object [("hall", .bool moving)])]

/-- Motion comes, goes and comes again, all told at once.  The lamp is commanded in vain and put
    back; it is left alone, being off; it goes on. -/
theorem refines_sequential_hall : ∃ end_,
    (unpoweredHall.processAll [motion true, motion false, motion true]).OrderedSteps
        (DeviceBehavior.scripted.logged.backend id) end_ ∧
      end_.Quiet ∧
      (end_.engine.outside.device "lamp").calls.map DeviceCall.power?
        = [none, some true, some false, none, some true] ∧
      (end_.engine.records.get? "lamp").map (·.power) = some true := by
  have reached : Reached (DeviceBehavior.scripted.logged.backend id) _ [] unpoweredHall :=
    ((Reached.start rfl).submit _).submit _
  have isOver : unpoweredHall.Quiet := fun task h => by
    simp [unpoweredHall, submit, Request.task?] at h
  obtain ⟨⟨end_, steps, quiet⟩, -⟩ := reached.refines_sequential isOver .refl
  have agrees := (reached.refines_sequential isOver steps).2 quiet
  refine ⟨end_, steps, quiet, ?_, ?_⟩
  · rw [agrees.calls]
    decide +kernel
  · rw [agrees.records]
    decide +kernel

end Activity

end HomeAutomation
