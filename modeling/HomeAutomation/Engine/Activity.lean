/-
  HomeAutomation.Engine.Activity

  The engine while tasks are under way: runs of actions and dispatches of snapshots. Every task
  advances step by step, and any task that can advance may be the next to do so; what holds of every
  step holds of every schedule. Dispatches wait in line for the snapshot lock, so that one snapshot
  is dispatched after the other; the actions that one snapshot sets off run side by side.

  `Activity.complete` advances the tasks in turn. The first task in the queue goes on until it
  suspends, which sends it to the end of the queue, or until it waits for another task, which will
  bring it back.
-/
import HomeAutomation.Engine.Dispatch
import HomeAutomation.Engine.Run

namespace HomeAutomation

/-! ## Tasks -/

/-- A notification and the run that carries the action out, unless there is nothing to do. -/
structure Slot where
  notice : Notice
  run : Option Nat
  deriving DecidableEq, Repr

/-- How far a dispatch has come. -/
inductive DispatchPhase
  /-- Nothing has been done. -/
  | ready
  /-- The snapshot lock has been asked for. -/
  | queued
  /-- The actions are being carried out. -/
  | gathering (slots : List Slot)
  | finished (result : Except DispatchError (List ActionOutcome))

/-- A snapshot being dispatched. -/
structure Dispatch where
  snapshot : Json
  phase : DispatchPhase := .ready

/-- A task. -/
inductive Task
  | run (run : Run)
  | dispatch (dispatch : Dispatch)

namespace DispatchPhase

/-- How many steps a dispatch has before it until its actions are known. -/
def unopened : DispatchPhase → Nat
  | ready => 2
  | queued => 1
  | _ => 0

/-- How many steps a dispatch whose actions are known has before it. -/
def remaining : DispatchPhase → Nat
  | gathering _ => 1
  | _ => 0

end DispatchPhase

namespace Task

/-- How many steps a task has before it until the actions it sets off are known. -/
def unopened : Task → Nat
  | run _ => 0
  | dispatch d => d.phase.unopened

/-- How many steps a task whose actions are known has before it, suspensions apart. -/
def remaining : Task → Nat
  | run r => r.remaining
  | dispatch d => d.phase.remaining

/-- How often the call in progress still suspends. -/
def pauses : Task → Nat
  | run r => r.pauses
  | dispatch _ => 0

end Task

/-! ## Steps -/

/-- The engine with the tasks under way. A task is known by its place in the list. -/
structure Activity (σ : Type) where
  engine : Engine σ
  locks : LockTable := []
  snapshotLock : Lock := {}
  tasks : List Task := []

/-- A step of a task. -/
structure ActivityStep (σ : Type) where
  next : Activity σ
  /-- Whether the task lets others go first. -/
  pauses : Bool := false
  /-- The tasks that may be able to advance now. -/
  woken : List Nat := []

namespace Activity

variable {σ : Type}

/-- Puts a task in a place. -/
def put (activity : Activity σ) (self : Nat) (task : Task) : Activity σ :=
  { activity with tasks := activity.tasks.set self task }

/-- The result of a run that is over. -/
def runResult? (activity : Activity σ) (id : Nat) : Option (Except ExecuteError ExecuteResult) :=
  match activity.tasks[id]? with
  | some (.run r) => r.result?
  | _ => none

/-- The result of a dispatch that is over. -/
def dispatchResult? (activity : Activity σ) (id : Nat) :
    Option (Except DispatchError (List ActionOutcome)) :=
  match activity.tasks[id]? with
  | some (.dispatch ⟨_, .finished result⟩) => some result
  | _ => none

/-- The outcome of a notification, once it is known. -/
def outcome? (activity : Activity σ) (slot : Slot) : Option ActionOutcome :=
  match slot.run with
  | none => some (slot.notice.outcome none)
  | some id => (activity.runResult? id).map fun result => slot.notice.outcome (some result)

/-- The outcomes of notifications, once all are known. -/
def outcomes? (activity : Activity σ) (slots : List Slot) : Option (List ActionOutcome) :=
  slots.mapM activity.outcome?

/-- The slots of notifications and the runs of those that have something to do. The first run gets
    the number `first`. -/
def slotsOf (book : RuleBook) (force : Bool) (parent : Option Nat) (first : Nat) :
    List Notice → List Slot × List Run
  | [] => ([], [])
  | notice :: rest =>
    match (book.action? notice.action).filter fun _ => notice.active with
    | some a =>
      let (slots, runs) := slotsOf book force parent (first + 1) rest
      (⟨notice, some first⟩ :: slots, .ofAction notice.action a force parent :: runs)
    | none =>
      let (slots, runs) := slotsOf book force parent first rest
      (⟨notice, none⟩ :: slots, runs)

/-- Advances a run. -/
def advanceRun (activity : Activity σ) (backend : Backend σ) (self : Nat) (run : Run) :
    Option (ActivityStep σ) :=
  match run.pauses with
  | pauses + 1 => some { next := activity.put self (.run { run with pauses }), pauses := true }
  | 0 =>
    (run.proceed backend self activity.engine activity.locks).map fun step =>
      { next := { activity.put self (.run step.run) with engine := step.engine, locks := step.locks }
        woken := step.woken.toList ++
          (if step.run.result?.isSome then step.run.parent.toList else []) }

/-- Ends a dispatch and gives up the snapshot lock. -/
def endDispatch (activity : Activity σ) (self : Nat) (snapshot : Json)
    (result : Except DispatchError (List ActionOutcome)) : ActivityStep σ :=
  let lock := activity.snapshotLock.release
  { next := { activity.put self (.dispatch ⟨snapshot, .finished result⟩) with snapshotLock := lock }
    woken := lock.holder?.toList }

/-- Applies a snapshot whose turn it is and starts the runs of the actions that it sets off. -/
def openDispatch (activity : Activity σ) (self : Nat) (snapshot : Json) : ActivityStep σ :=
  let (engine, triggered) := activity.engine.observe snapshot
  let activity := { activity with engine }
  match triggered with
  | .error e => activity.endDispatch self snapshot (.error e)
  | .ok events =>
    let first := activity.tasks.length
    let (slots, runs) := slotsOf engine.book false (some self) first (engine.notices events)
    let opened := activity.put self (.dispatch ⟨snapshot, .gathering slots⟩)
    { next := { opened with tasks := opened.tasks ++ runs.map .run }
      woken := List.range' first runs.length }

/-- Advances a dispatch. -/
def advanceDispatch (activity : Activity σ) (self : Nat) (dispatch : Dispatch) :
    Option (ActivityStep σ) :=
  match dispatch with
  | ⟨snapshot, .ready⟩ =>
    let queued := activity.put self (.dispatch ⟨snapshot, .queued⟩)
    some { next := { queued with snapshotLock := activity.snapshotLock.acquire self } }
  | ⟨snapshot, .queued⟩ =>
    if activity.snapshotLock.heldBy self then some (activity.openDispatch self snapshot) else none
  | ⟨snapshot, .gathering slots⟩ =>
    (activity.outcomes? slots).map fun outcomes => activity.endDispatch self snapshot (.ok outcomes)
  | ⟨_, .finished _⟩ => none

/-- Advances a task. A task that is over or that waits for another cannot advance. -/
def advance (activity : Activity σ) (backend : Backend σ) (self : Nat) :
    Option (ActivityStep σ) :=
  match activity.tasks[self]? with
  | some (.run run) => activity.advanceRun backend self run
  | some (.dispatch dispatch) => activity.advanceDispatch self dispatch
  | none => none

/-! ## Progress -/

/-- The sum of a measure over tasks. -/
def total (measure : Task → Nat) : List Task → Nat
  | [] => 0
  | task :: rest => measure task + total measure rest

theorem total_append (measure : Task → Nat) (tasks others : List Task) :
    total measure (tasks ++ others) = total measure tasks + total measure others := by
  induction tasks with
  | nil => simp [total]
  | cons task rest ih =>
    simp only [List.cons_append, total, ih]
    omega

/-- Putting a task in the place of another changes a sum by the difference of the two. -/
theorem total_set (measure : Task → Nat) {tasks : List Task} {self : Nat} {old : Task}
    (h : tasks[self]? = some old) (new : Task) :
    total measure (tasks.set self new) + measure old = total measure tasks + measure new := by
  induction tasks generalizing self with
  | nil => simp at h
  | cons task rest ih =>
    cases self with
    | zero =>
      obtain rfl : task = old := by simpa using h
      simp only [List.set_cons_zero, total]
      omega
    | succ self =>
      have := @ih self (by simpa using h)
      simp only [List.set_cons_succ, total]
      omega

/-- The order in which steps make progress: dispatches open, tasks come closer to their end, calls
    suspend. -/
def Closer (next tasks : List Task) : Prop :=
  Prod.Lex (· < ·) (Prod.Lex (· < ·) (· < ·))
    (total Task.unopened next, total Task.remaining next, total Task.pauses next)
    (total Task.unopened tasks, total Task.remaining tasks, total Task.pauses tasks)

/-- A task comes closer to its end by what is left of it after its step. -/
theorem closer_set {tasks : List Task} {self : Nat} {old new : Task} (ht : tasks[self]? = some old)
    (h : Prod.Lex (· < ·) (Prod.Lex (· < ·) (· < ·)) (new.unopened, new.remaining, new.pauses)
      (old.unopened, old.remaining, old.pauses)) :
    Closer (tasks.set self new) tasks := by
  have hu := total_set Task.unopened ht new
  have hr := total_set Task.remaining ht new
  have hp := total_set Task.pauses ht new
  unfold Closer
  rcases Prod.lex_def.1 h with h | ⟨hu', h⟩
  · exact .left _ _ (by simp only at h; omega)
  · rcases Prod.lex_def.1 h with h | ⟨hr', h⟩
    · rw [show total Task.unopened (tasks.set self new) = total Task.unopened tasks by
        simp only at hu'; omega]
      exact .right _ (.left _ _ (by simp only at h; omega))
    · rw [show total Task.unopened (tasks.set self new) = total Task.unopened tasks by
          simp only at hu'; omega,
        show total Task.remaining (tasks.set self new) = total Task.remaining tasks by
          simp only at hr'; omega]
      exact .right _ (.right _ (by simp only at h; omega))

theorem closer_advanceRun {activity : Activity σ} {backend : Backend σ} {self : Nat} {run : Run}
    {step : ActivityStep σ} (ht : activity.tasks[self]? = some (.run run))
    (h : activity.advanceRun backend self run = some step) :
    Closer step.next.tasks activity.tasks := by
  unfold advanceRun at h
  split at h
  · rename_i pauses hp
    cases h
    exact closer_set ht (.right _ (.right _ (by simp [Task.pauses, hp])))
  · obtain ⟨runStep, hs, rfl⟩ := Option.map_eq_some_iff.1 h
    exact closer_set ht (.right _ (.left _ _ (Run.remaining_proceed hs)))

theorem closer_openDispatch {activity : Activity σ} {self : Nat} {snapshot : Json}
    (ht : activity.tasks[self]? = some (.dispatch ⟨snapshot, .queued⟩)) :
    Closer (activity.openDispatch self snapshot).next.tasks activity.tasks := by
  unfold openDispatch
  split
  rename_i engine triggered _
  dsimp only
  cases triggered with
  | error e => exact closer_set ht (.left _ _ (by simp [Task.unopened, DispatchPhase.unopened]))
  | ok events =>
    refine .left _ _ ?_
    have hz (runs : List Run) : total Task.unopened (runs.map .run) = 0 := by
      induction runs with
      | nil => rfl
      | cons run runs ih => simpa [total, Task.unopened] using ih
    have hu (slots : List Slot) :
        total Task.unopened (activity.tasks.set self (.dispatch ⟨snapshot, .gathering slots⟩))
          < total Task.unopened activity.tasks := by
      have := total_set Task.unopened ht (.dispatch ⟨snapshot, .gathering slots⟩)
      simp only [Task.unopened, DispatchPhase.unopened] at this
      omega
    simp only [put, total_append, hz, Nat.add_zero]
    exact hu _

/-- Every step makes progress. -/
theorem closer_advance {activity : Activity σ} {backend : Backend σ} {self : Nat}
    {step : ActivityStep σ} (h : activity.advance backend self = some step) :
    Closer step.next.tasks activity.tasks := by
  unfold advance at h
  split at h
  · exact closer_advanceRun ‹_› h
  · rename_i dispatch ht
    unfold advanceDispatch at h
    split at h
    · cases h
      exact closer_set ht (.left _ _ (by simp [Task.unopened, DispatchPhase.unopened]))
    · split at h <;> cases h
      exact closer_openDispatch ht
    · obtain ⟨outcomes, _, rfl⟩ := Option.map_eq_some_iff.1 h
      exact closer_set ht (.right _ (.left _ _ (by simp [Task.remaining, DispatchPhase.remaining])))
    · cases h
  · cases h

/-! ## Schedule -/

/-- Advances tasks in turn until no task in the queue can advance. -/
def schedule (backend : Backend σ) (activity : Activity σ) (queue : List Nat) : Activity σ :=
  match queue with
  | [] => activity
  | self :: rest =>
    match h : activity.advance backend self with
    | none => schedule backend activity rest
    | some step =>
      have : Closer step.next.tasks activity.tasks := closer_advance h
      schedule backend step.next
        (if step.pauses then rest ++ step.woken ++ [self] else self :: rest ++ step.woken)
termination_by
  ((total Task.unopened activity.tasks, total Task.remaining activity.tasks,
    total Task.pauses activity.tasks), queue.length)
decreasing_by
  · exact .right _ (by simp)
  · exact .left _ _ this

/-- Starts tasks in their order and advances them in turn until all are over. -/
def complete (backend : Backend σ) (engine : Engine σ) (tasks : List Task) : Activity σ :=
  schedule backend { engine, tasks } (List.range tasks.length)

end Activity

end HomeAutomation
