/-
  HomeAutomation.Proofs.Engine.Turns

  The turns of dispatches.  Snapshots that are submitted together are dispatched
  one after the other, in the order of their submission: their dispatches stand
  in line for the snapshot lock, or are still to ask for it, in the order of
  their numbers.  Either none of them has its turn (`Between`) or one has
  (`Within`); and of the steps of an activity only those of the dispatch whose
  turn it is lead from one to the other.
-/

import HomeAutomation.Proofs.Engine.Lineup
import HomeAutomation.Proofs.Engine.SingleDispatch

namespace HomeAutomation

variable {σ : Type}

namespace Activity

-- ============================================================================
-- Snapshots submitted together
-- ============================================================================

/-- Submits snapshots as tasks that all wait to be dispatched. -/
def processAll (activity : Activity σ) (snapshots : List Json) : Activity σ :=
  snapshots.foldl (fun activity snapshot => activity.submit (.process snapshot)) activity

theorem processAll_eq (activity : Activity σ) (snapshots : List Json) :
    activity.processAll snapshots
      = { activity with
          tasks := activity.tasks ++ snapshots.map fun snapshot => .dispatch { snapshot } } := by
  induction snapshots generalizing activity with
  | nil => simp [processAll]
  | cons snapshot rest ih =>
    rw [processAll, List.foldl_cons]
    refine (ih _).trans ?_
    simp [submit, Request.book, Request.task?]

variable {backend : Backend σ} {activity next : Activity σ} {self first : Nat}

theorem Reached.submits {initial : Engine σ} {log : List Contact}
    (reached : Reached backend initial log activity) (requests : List Request) :
    Reached backend initial log (requests.foldl Activity.submit activity) := by
  induction requests generalizing activity with
  | nil => exact reached
  | cons request rest ih => exact ih (reached.submit request)

theorem Reached.processAll {initial : Engine σ} {log : List Contact}
    (reached : Reached backend initial log activity) (snapshots : List Json) :
    Reached backend initial log (activity.processAll snapshots) := by
  have requests : activity.processAll snapshots
      = (snapshots.map Request.process).foldl Activity.submit activity := List.foldl_map.symm
  rw [requests]
  exact reached.submits _

theorem has_iff {p : Task → Bool} {id : Nat} :
    activity.has p id = true ↔ ∃ task, activity.tasks[id]? = some task ∧ p task = true := by
  unfold has
  cases activity.tasks[id]? <;> simp

-- ============================================================================
-- Turns at the snapshot lock
-- ============================================================================

/-- The turns of the dispatches. -/
def turns (activity : Activity σ) : List Nat :=
  activity.snapshotLock.turns Task.isUnopened activity.tasks

/-- The holder of the snapshot lock heads its line. -/
theorem head_of_heldBy {lock : Lock} (held : lock.heldBy self = true) :
    lock.line.head? = some self := by
  simpa [Lock.heldBy, Lock.holder?] using held

/-- So does a dispatch that gathers outcomes. -/
theorem head_of_gathering (turnsKept : activity.TurnsKept) {snapshot : Json} {slots : List Slot}
    (task : activity.tasks[self]? = some (.dispatch ⟨snapshot, .gathering slots⟩)) :
    activity.snapshotLock.line.head? = some self :=
  turnsKept.inside_holds self (by simp [has, task, Task.isOpen])

/-- The task at the head of the line is the next to have its turn. -/
theorem turns_head {count : Nat} (turns : activity.turns = List.range' first count)
    (head : activity.snapshotLock.line.head? = some self) :
    self = first ∧ ∃ rest, count = rest + 1 := by
  obtain ⟨line, hline⟩ := List.head?_eq_some_iff.1 head
  rw [Activity.turns, Lock.turns, hline] at turns
  cases count with
  | zero => cases turns
  | succ rest => exact ⟨(List.cons.inj turns).1, rest, rfl⟩

/-- A run has no turn. -/
theorem turns_run {run run' : Run} (task : activity.tasks[self]? = some (.run run))
    (tasks : next.tasks = activity.tasks.set self (.run run'))
    (lock : next.snapshotLock = activity.snapshotLock) : next.turns = activity.turns := by
  rw [Activity.turns, Activity.turns, tasks, lock]
  exact Lock.turns_set task rfl

/-- A dispatch that joins the line has had its turn in view. -/
theorem turns_queue {snapshot : Json} (h : activity.TimelyStep backend self next)
    (task : activity.tasks[self]? = some (.dispatch ⟨snapshot, .ready⟩))
    (tasks : next.tasks = activity.tasks.set self (.dispatch ⟨snapshot, .queued⟩))
    (lock : next.snapshotLock = activity.snapshotLock.acquire self) :
    next.turns = activity.turns := by
  rw [Activity.turns, Activity.turns, tasks, lock]
  exact Lock.turns_acquire task rfl rfl (h.first_unopened task rfl)

/-- New runs take no turn at the snapshot lock. -/
theorem turns_spread {old new : Task} {runs : List Run}
    (task : activity.tasks[self]? = some old)
    (tasks : next.tasks = activity.tasks.set self new ++ runs.map .run)
    (lock : next.snapshotLock = activity.snapshotLock)
    (same : new.isUnopened = old.isUnopened) : next.turns = activity.turns := by
  have young : (runs.map Task.run).findIdxs Task.isUnopened (0 + activity.tasks.length) = [] := by
    refine List.findIdxs_eq_nil_iff.2 fun task hmem => ?_
    obtain ⟨run, -, rfl⟩ := List.mem_map.1 hmem
    rfl
  rw [Activity.turns, lock, tasks, Lock.turns, List.findIdxs_append, List.length_set, young,
    List.append_nil]
  exact Lock.turns_set task same

/-- A dispatch that ends its turn leaves the turns after it. -/
theorem turns_release {count : Nat} {old new : Dispatch}
    (turns : activity.turns = List.range' first (count + 1))
    (task : activity.tasks[self]? = some (.dispatch old)) (started : old.phase ≠ .ready)
    (ended : new.phase ≠ .ready) (head : activity.snapshotLock.line.head? = some self)
    (tasks : next.tasks = activity.tasks.set self (.dispatch new))
    (lock : next.snapshotLock = activity.snapshotLock.release) :
    next.turns = List.range' (first + 1) count := by
  have unopened {d : Dispatch} (h : d.phase ≠ .ready) : (Task.dispatch d).isUnopened = false := by
    obtain ⟨snapshot, phase⟩ := d
    cases phase with
    | ready => exact absurd rfl h
    | _ => rfl
  have released : activity.turns = self :: next.turns := by
    rw [Activity.turns, Activity.turns, tasks, lock]
    exact Lock.turns_release task ((unopened ended).trans (unopened started).symm) head
  exact (List.cons.inj (released.symm.trans turns)).2

-- ============================================================================
-- Dispatches that wait
-- ============================================================================

/-- Dispatches that wait for their turns, from a number on. -/
def Awaiting (activity : Activity σ) (first : Nat) (todo : List Json) : Prop :=
  ∀ (i : Nat) (snapshot : Json), todo[i]? = some snapshot →
    ∃ phase, activity.tasks[first + i]? = some (.dispatch ⟨snapshot, phase⟩) ∧
      (phase = .ready ∨ phase = .queued)

variable {todo : List Json}

/-- Steps of others leave waiting dispatches waiting. -/
theorem Awaiting.others (awaiting : activity.Awaiting first todo)
    (h : activity.Advances backend self next)
    (apart : ∀ i < todo.length, first + i ≠ self) : next.Awaiting first todo := by
  intro i snapshot hi
  obtain ⟨phase, task, unopened⟩ := awaiting i snapshot hi
  exact ⟨phase, h.others task (apart i (List.getElem?_eq_some_iff.1 hi).1), unopened⟩

/-- So do those of runs. -/
theorem Awaiting.run (awaiting : activity.Awaiting first todo)
    (h : activity.Advances backend self next) {run : Run}
    (own : activity.tasks[self]? = some (.run run)) : next.Awaiting first todo := by
  refine awaiting.others h fun i hi => ?_
  rintro rfl
  obtain ⟨phase, found, -⟩ := awaiting i todo[i] (List.getElem?_eq_getElem hi)
  rw [own] at found
  cases found

/-- A waiting dispatch may join the line. -/
theorem Awaiting.queue (awaiting : activity.Awaiting first todo) {snapshot : Json}
    (task : activity.tasks[self]? = some (.dispatch ⟨snapshot, .ready⟩))
    (tasks : next.tasks = activity.tasks.set self (.dispatch ⟨snapshot, .queued⟩)) :
    next.Awaiting first todo := by
  intro i snapshot' hi
  obtain ⟨phase, found, unopened⟩ := awaiting i snapshot' hi
  rw [tasks, getElem?_set_task task]
  split
  · rename_i hid
    rw [hid, task] at found
    cases found
    exact ⟨.queued, rfl, .inr rfl⟩
  · exact ⟨phase, found, unopened⟩

/-- The first of the dispatches that wait, and those after it. -/
theorem Awaiting.uncons {snapshot : Json} {rest : List Json}
    (awaiting : activity.Awaiting first (snapshot :: rest)) :
    (∃ phase, activity.tasks[first]? = some (.dispatch ⟨snapshot, phase⟩) ∧
      (phase = .ready ∨ phase = .queued)) ∧ activity.Awaiting (first + 1) rest := by
  refine ⟨awaiting 0 snapshot rfl, fun i snapshot' hi => ?_⟩
  rw [Nat.add_assoc, Nat.add_comm 1 i]
  exact awaiting (i + 1) snapshot' hi

-- ============================================================================
-- Between two turns, and within one
-- ============================================================================

/-- The next turns are those of dispatches that wait, from a number on. -/
structure Between (activity : Activity σ) (first : Nat) (todo : List Json) : Prop where
  turns : activity.turns = List.range' first todo.length
  awaiting : activity.Awaiting first todo

/-- It is the turn of a dispatch, and those after it wait for theirs. -/
structure Within (activity : Activity σ) (first : Nat) (snapshot : Json) (slots : List Slot)
    (todo : List Json) : Prop where
  turns : activity.turns = List.range' first (todo.length + 1)
  awaiting : activity.Awaiting (first + 1) todo
  gathering : activity.tasks[first]? = some (.dispatch ⟨snapshot, .gathering slots⟩)

variable {snapshot : Json} {slots : List Slot}

/-- The dispatch whose turn it is has the first of the snapshots that wait. -/
theorem Between.turn (between : activity.Between first todo)
    (head : activity.snapshotLock.line.head? = some self) {phase : DispatchPhase}
    (task : activity.tasks[self]? = some (.dispatch ⟨snapshot, phase⟩)) :
    self = first ∧ (phase = .ready ∨ phase = .queued) ∧
      ∃ rest, todo = snapshot :: rest ∧ activity.Awaiting (first + 1) rest := by
  obtain ⟨rfl, count, hcount⟩ := turns_head between.turns head
  obtain ⟨next, rest, rfl⟩ := List.exists_cons_of_length_eq_add_one hcount
  obtain ⟨⟨phase', found, unopened⟩, later⟩ := between.awaiting.uncons
  obtain ⟨rfl, rfl⟩ : snapshot = next ∧ phase = phase' := by simpa [task] using found
  exact ⟨rfl, unopened, rest, rfl, later⟩

theorem Between.run (between : activity.Between first todo)
    (advances : activity.Advances backend self next) {run run' : Run}
    (task : activity.tasks[self]? = some (.run run))
    (tasks : next.tasks = activity.tasks.set self (.run run'))
    (lock : next.snapshotLock = activity.snapshotLock) : next.Between first todo :=
  ⟨(turns_run task tasks lock).trans between.turns, between.awaiting.run advances task⟩

theorem Between.queue (between : activity.Between first todo)
    (h : activity.TimelyStep backend self next)
    (task : activity.tasks[self]? = some (.dispatch ⟨snapshot, .ready⟩))
    (tasks : next.tasks = activity.tasks.set self (.dispatch ⟨snapshot, .queued⟩))
    (lock : next.snapshotLock = activity.snapshotLock.acquire self) : next.Between first todo :=
  ⟨(turns_queue h task tasks lock).trans between.turns, between.awaiting.queue task tasks⟩

/-- A turn that ends at once. -/
theorem Between.refuse (between : activity.Between first todo)
    (advances : activity.Advances backend self next)
    {result : Except DispatchError (List ActionOutcome)}
    (task : activity.tasks[self]? = some (.dispatch ⟨snapshot, .queued⟩))
    (held : activity.snapshotLock.heldBy self = true)
    (tasks : next.tasks = activity.tasks.set self (.dispatch ⟨snapshot, .finished result⟩))
    (lock : next.snapshotLock = activity.snapshotLock.release) :
    self = first ∧ ∃ rest, todo = snapshot :: rest ∧ next.Between (first + 1) rest := by
  have head := head_of_heldBy held
  obtain ⟨rfl, -, rest, rfl, later⟩ := between.turn head task
  refine ⟨rfl, rest, rfl, ?_, later.others advances fun i _ => by omega⟩
  exact turns_release between.turns task (by simp) (by simp) head tasks lock

/-- A turn that begins. -/
theorem Between.spread (between : activity.Between first todo)
    (advances : activity.Advances backend self next) {runs : List Run}
    (task : activity.tasks[self]? = some (.dispatch ⟨snapshot, .queued⟩))
    (held : activity.snapshotLock.heldBy self = true)
    (tasks : next.tasks
      = activity.tasks.set self (.dispatch ⟨snapshot, .gathering slots⟩) ++ runs.map .run)
    (lock : next.snapshotLock = activity.snapshotLock) :
    self = first ∧ ∃ rest, todo = snapshot :: rest ∧ next.Within first snapshot slots rest := by
  obtain ⟨rfl, -, rest, rfl, later⟩ := between.turn (head_of_heldBy held) task
  refine ⟨rfl, rest, rfl, (turns_spread task tasks lock rfl).trans between.turns,
    later.others advances fun i _ => by omega, ?_⟩
  rw [tasks, List.getElem?_append_left, getElem?_set_task task, if_pos rfl]
  rw [List.length_set]
  exact (List.getElem?_eq_some_iff.1 task).1

/-- Between two turns no dispatch gathers outcomes. -/
theorem Between.not_gathering (between : activity.Between first todo)
    (head : activity.snapshotLock.line.head? = some self) :
    activity.tasks[self]? ≠ some (.dispatch ⟨snapshot, .gathering slots⟩) := by
  intro task
  obtain ⟨-, unopened, -⟩ := between.turn head task
  rcases unopened with unopened | unopened <;> cases unopened

/-- The steps of other tasks leave the dispatch alone whose turn it is. -/
theorem Within.stays (within : activity.Within first snapshot slots todo)
    (advances : activity.Advances backend self next) {task : Task}
    (own : activity.tasks[self]? = some task)
    (other : task ≠ .dispatch ⟨snapshot, .gathering slots⟩) :
    next.tasks[first]? = some (.dispatch ⟨snapshot, .gathering slots⟩) := by
  refine advances.others within.gathering ?_
  rintro rfl
  exact other (Option.some.inj (own.symm.trans within.gathering))

theorem Within.run (within : activity.Within first snapshot slots todo)
    (advances : activity.Advances backend self next) {run run' : Run}
    (task : activity.tasks[self]? = some (.run run))
    (tasks : next.tasks = activity.tasks.set self (.run run'))
    (lock : next.snapshotLock = activity.snapshotLock) :
    next.Within first snapshot slots todo :=
  ⟨(turns_run task tasks lock).trans within.turns, within.awaiting.run advances task,
    within.stays advances task Task.noConfusion⟩

theorem Within.queue (within : activity.Within first snapshot slots todo) {snapshot' : Json}
    (h : activity.TimelyStep backend self next)
    (task : activity.tasks[self]? = some (.dispatch ⟨snapshot', .ready⟩))
    (tasks : next.tasks = activity.tasks.set self (.dispatch ⟨snapshot', .queued⟩))
    (lock : next.snapshotLock = activity.snapshotLock.acquire self) :
    next.Within first snapshot slots todo :=
  ⟨(turns_queue h task tasks lock).trans within.turns, within.awaiting.queue task tasks,
    within.stays h.step.advances task (by simp)⟩

/-- Within a turn nobody who waits has the lock. -/
theorem Within.not_queued (within : activity.Within first snapshot slots todo)
    {snapshot' : Json} (held : activity.snapshotLock.heldBy self = true) :
    activity.tasks[self]? ≠ some (.dispatch ⟨snapshot', .queued⟩) := by
  intro task
  obtain ⟨rfl, -⟩ := turns_head within.turns (head_of_heldBy held)
  rw [within.gathering] at task
  cases task

/-- A turn that ends. -/
theorem Within.gather (within : activity.Within first snapshot slots todo)
    (advances : activity.Advances backend self next)
    (head : activity.snapshotLock.line.head? = some self)
    {snapshot' : Json} {slots' : List Slot} {result : Except DispatchError (List ActionOutcome)}
    (task : activity.tasks[self]? = some (.dispatch ⟨snapshot', .gathering slots'⟩))
    (tasks : next.tasks = activity.tasks.set self (.dispatch ⟨snapshot', .finished result⟩))
    (lock : next.snapshotLock = activity.snapshotLock.release) :
    self = first ∧ slots' = slots ∧ next.Between (first + 1) todo := by
  obtain ⟨rfl, -⟩ := turns_head within.turns head
  obtain ⟨rfl, rfl⟩ : snapshot' = snapshot ∧ slots' = slots := by
    simpa [task] using within.gathering
  refine ⟨rfl, rfl, ?_, within.awaiting.others advances fun i _ => by omega⟩
  exact turns_release within.turns task (by simp) (by simp) head tasks lock

-- ============================================================================
-- Before the first turn
-- ============================================================================

/-- The dispatches of snapshots wait for their turns in order. -/
theorem findIdxs_isUnopened (snapshots : List Json) (start : Nat) :
    (snapshots.map fun snapshot => Task.dispatch { snapshot }).findIdxs Task.isUnopened start
      = List.range' start snapshots.length := by
  induction snapshots generalizing start with
  | nil => rfl
  | cons snapshot rest ih =>
    have unopened : (Task.dispatch { snapshot }).isUnopened = true := rfl
    rw [List.map_cons, List.findIdxs_cons, if_pos unopened, ih, List.length_cons, List.range'_succ]

/-- Snapshots that are submitted when no dispatch stands in line or is still to ask. -/
theorem between_processAll (none : activity.turns = []) (snapshots : List Json) :
    (activity.processAll snapshots).Between activity.tasks.length snapshots := by
  obtain ⟨line, olds⟩ := List.append_eq_nil_iff.1 none
  rw [processAll_eq]
  constructor
  · rw [turns, Lock.turns, line, List.findIdxs_append, olds, Nat.zero_add, findIdxs_isUnopened]
    rfl
  · intro i snapshot hi
    refine ⟨.ready, ?_, .inl rfl⟩
    rw [List.getElem?_append_right (by omega), Nat.add_sub_cancel_left, List.getElem?_map, hi]
    rfl

/-- A task that is over has no turn at the snapshot lock, now or later. -/
theorem no_turn_of_isFinished {task : Task} (isOver : isFinished task = true) :
    task.isInLine = false ∧ task.isUnopened = false := by
  cases task with
  | run => exact ⟨rfl, rfl⟩
  | dispatch d =>
    obtain ⟨snapshot, phase⟩ := d
    cases phase with
    | finished => exact ⟨rfl, rfl⟩
    | ready | queued | gathering => cases isOver

/-- When all tasks are over, there is no turn to come. -/
theorem Quiet.turns_eq_nil (quiet : activity.Quiet) (turnsKept : activity.TurnsKept) :
    activity.turns = [] := by
  have line : activity.snapshotLock.line = [] := by
    refine turnsKept.line_eq_nil fun id claims => ?_
    obtain ⟨task, found, inLine⟩ := has_iff.1 claims
    rw [(no_turn_of_isFinished (quiet task (List.mem_of_getElem? found))).1] at inLine
    cases inLine
  have olds : activity.tasks.findIdxs Task.isUnopened = [] :=
    List.findIdxs_eq_nil_iff.2 fun task hmem => (no_turn_of_isFinished (quiet task hmem)).2
  rw [turns, Lock.turns, line, olds]
  rfl

end Activity

end HomeAutomation
