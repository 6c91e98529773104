/-
  HomeAutomation.Proofs.Engine.Applied

  The events follow the snapshots.  Dispatches have their turns in the order of
  their snapshots, and nothing but a dispatch whose turn it is touches an event.
  So the conditions, values and states of all events are, at every moment, those
  after the snapshots applied so far, however the runs of the fan-outs fare.
-/

import HomeAutomation.Proofs.Engine.Rehearsal
import HomeAutomation.Proofs.Engine.Turns

namespace HomeAutomation

variable {σ : Type}

-- ============================================================================
-- Snapshots applied one after the other
-- ============================================================================

namespace Engine

/-- Applies snapshots without acting on any. -/
def observeAll (engine : Engine σ) (snapshots : List Json) : Engine σ :=
  snapshots.foldl (fun engine snapshot => (engine.observe snapshot).1) engine

variable {engine other : Engine σ}

theorem observeAll_concat (engine : Engine σ) (snapshots : List Json) (snapshot : Json) :
    engine.observeAll (snapshots ++ [snapshot])
      = ((engine.observeAll snapshots).observe snapshot).1 :=
  List.foldl_concat ..

/-- Snapshots do to alike engines alike. -/
theorem Alike.observeAll (alike : engine.Alike other) (snapshots : List Json) :
    (engine.observeAll snapshots).Alike (other.observeAll snapshots) := by
  induction snapshots generalizing engine other with
  | nil => exact alike
  | cons snapshot rest ih =>
    have observed : engine.observe snapshot = (_, _) := rfl
    obtain ⟨other', observes, alike'⟩ := alike.observe observed
    obtain rfl : (other.observe snapshot).1 = other' := congrArg Prod.fst observes
    exact ih alike'

/-- One more snapshot is applied. -/
theorem Alike.observe_concat {seen : List Json} (alike : (engine.observeAll seen).Alike other)
    {snapshot : Json} {other' : Engine σ} {result : Except DispatchError (List Nat)}
    (observes : other.observe snapshot = (other', result)) :
    (engine.observeAll (seen ++ [snapshot])).Alike other' := by
  obtain ⟨engine', observes', alike'⟩ := alike.symm.observe observes
  rw [observeAll_concat, observes']
  exact alike'.symm

end Engine

-- ============================================================================
-- How many snapshots have been applied
-- ============================================================================

/-- Whether a task is a dispatch whose turn has come. -/
def Task.isOpened : Task → Bool
  | dispatch ⟨_, .gathering _⟩ => true
  | dispatch ⟨_, .finished _⟩ => true
  | _ => false

namespace Activity

/-- How many snapshots have been applied. -/
def applied (activity : Activity σ) : Nat := activity.tasks.countP Task.isOpened

variable {backend : Backend σ} {activity next : Activity σ} {self : Nat} {old new : Task}

theorem countP_set_task {tasks : List Task} (task : tasks[self]? = some old) (new : Task) :
    (tasks.set self new).countP Task.isOpened + (if old.isOpened then 1 else 0)
      = tasks.countP Task.isOpened + (if new.isOpened then 1 else 0) := by
  obtain ⟨before, after, rfl, rfl⟩ := Task.exists_append task
  simp [List.countP_append, List.countP_cons]
  omega

theorem applied_eq (task : activity.tasks[self]? = some old)
    (tasks : next.tasks = activity.tasks.set self new) (same : new.isOpened = old.isOpened) :
    next.applied = activity.applied := by
  have count := countP_set_task task new
  rw [same] at count
  rw [applied, applied, tasks]
  omega

theorem applied_succ (task : activity.tasks[self]? = some old) {runs : List Run}
    (tasks : next.tasks = activity.tasks.set self new ++ runs.map .run)
    (unopened : old.isOpened = false) (opened : new.isOpened = true) :
    next.applied = activity.applied + 1 := by
  have young : (runs.map Task.run).countP Task.isOpened = 0 := by
    refine List.countP_eq_zero.2 fun task hmem => ?_
    obtain ⟨run, -, rfl⟩ := List.mem_map.1 hmem
    exact Bool.false_ne_true
  have count := countP_set_task task new
  rw [unopened, opened] at count
  rw [applied, applied, tasks, List.countP_append, young]
  simpa using count

-- ============================================================================
-- The invariant
-- ============================================================================

/-- Of the snapshots some have been applied, the others wait for their turns in order. -/
inductive Showing (first : Engine σ) (snapshots : List Json) (activity : Activity σ) : Prop
  /-- No dispatch is open. -/
  | between {seen todo : List Json} (split : snapshots = seen ++ todo)
      (turns : activity.Between seen.length todo) (applied : activity.applied = seen.length)
      (alike : (first.observeAll seen).Alike activity.engine)
  /-- The dispatch of the snapshot that was applied last is open. -/
  | within {seen todo : List Json} {snapshot : Json} {slots : List Slot}
      (split : snapshots = (seen ++ [snapshot]) ++ todo)
      (turns : activity.Within seen.length snapshot slots todo)
      (applied : activity.applied = (seen ++ [snapshot]).length)
      (alike : (first.observeAll (seen ++ [snapshot])).Alike activity.engine)

variable {first : Engine σ} {snapshots : List Json}

/-- The engine has applied the first of the snapshots. -/
theorem Showing.alike (showing : activity.Showing first snapshots) :
    (first.observeAll (snapshots.take activity.applied)).Alike activity.engine := by
  cases showing with
  | between split turns applied alike | within split turns applied alike =>
    rw [applied, split, List.take_left]
    exact alike

/-- A step of a run. -/
theorem Showing.run (showing : activity.Showing first snapshots)
    (advances : activity.Advances backend self next) {run run' : Run}
    (task : activity.tasks[self]? = some (.run run))
    (tasks : next.tasks = activity.tasks.set self (.run run'))
    (lock : next.snapshotLock = activity.snapshotLock)
    (alike' : activity.engine.Alike next.engine) : next.Showing first snapshots := by
  have count : next.applied = activity.applied := applied_eq task tasks rfl
  cases showing with
  | between split turns applied alike =>
    exact .between split (turns.run advances task tasks lock) (count.trans applied)
      (alike.trans alike')
  | within split turns applied alike =>
    exact .within split (turns.run advances task tasks lock) (count.trans applied)
      (alike.trans alike')

/-- A dispatch joins the line. -/
theorem Showing.queue (showing : activity.Showing first snapshots) {snapshot : Json}
    (h : activity.TimelyStep backend self next)
    (task : activity.tasks[self]? = some (.dispatch ⟨snapshot, .ready⟩))
    (tasks : next.tasks = activity.tasks.set self (.dispatch ⟨snapshot, .queued⟩))
    (lock : next.snapshotLock = activity.snapshotLock.acquire self)
    (engine : next.engine = activity.engine) : next.Showing first snapshots := by
  have count : next.applied = activity.applied := applied_eq task tasks rfl
  cases showing with
  | between split turns applied alike =>
    exact .between split (turns.queue h task tasks lock) (count.trans applied) (engine ▸ alike)
  | within split turns applied alike =>
    exact .within split (turns.queue h task tasks lock) (count.trans applied) (engine ▸ alike)

/-- A snapshot that cannot be applied ends its turn at once. -/
theorem Showing.refuse (showing : activity.Showing first snapshots)
    (advances : activity.Advances backend self next) {snapshot : Json} {e : DispatchError}
    (task : activity.tasks[self]? = some (.dispatch ⟨snapshot, .queued⟩))
    (held : activity.snapshotLock.heldBy self = true)
    (observes : activity.engine.observe snapshot = (next.engine, .error e))
    (tasks : next.tasks
      = activity.tasks.set self (.dispatch ⟨snapshot, .finished (.error e)⟩))
    (lock : next.snapshotLock = activity.snapshotLock.release) :
    next.Showing first snapshots := by
  cases showing with
  | @between seen _ split turns applied alike =>
    obtain ⟨rfl, rest, rfl, turns'⟩ := turns.refuse advances task held tasks lock
    have more : (seen ++ [snapshot]).length = seen.length + 1 := List.length_append ..
    have alone : next.tasks = _ ++ List.map .run [] := tasks.trans (List.append_nil _).symm
    have count : next.applied = activity.applied + 1 := applied_succ task alone rfl rfl
    refine .between (split.trans (List.append_cons ..)) ?_ ?_ (alike.observe_concat observes)
    · rw [more]
      exact turns'
    · rw [count, applied, more]
  | within split turns applied alike => exact absurd task (turns.not_queued held)

/-- A snapshot whose turn it is is applied. -/
theorem Showing.spread (showing : activity.Showing first snapshots)
    (advances : activity.Advances backend self next) {snapshot : Json} {events : List Nat}
    {slots : List Slot} {runs : List Run}
    (task : activity.tasks[self]? = some (.dispatch ⟨snapshot, .queued⟩))
    (held : activity.snapshotLock.heldBy self = true)
    (observes : activity.engine.observe snapshot = (next.engine, .ok events))
    (tasks : next.tasks = activity.tasks.set self (.dispatch ⟨snapshot, .gathering slots⟩)
      ++ runs.map .run)
    (lock : next.snapshotLock = activity.snapshotLock) : next.Showing first snapshots := by
  cases showing with
  | @between seen _ split turns applied alike =>
    obtain ⟨rfl, rest, rfl, turns'⟩ := turns.spread advances task held tasks lock
    have count : next.applied = activity.applied + 1 := applied_succ task tasks rfl rfl
    refine .within (split.trans (List.append_cons ..)) turns' ?_ (alike.observe_concat observes)
    rw [count, applied, List.length_append, List.length_singleton]
  | within split turns applied alike => exact absurd task (turns.not_queued held)

/-- A dispatch whose outcomes are known ends its turn. -/
theorem Showing.gather (showing : activity.Showing first snapshots)
    (advances : activity.Advances backend self next) (turnsKept : activity.TurnsKept)
    {snapshot : Json} {slots : List Slot} {outcomes : List ActionOutcome}
    (task : activity.tasks[self]? = some (.dispatch ⟨snapshot, .gathering slots⟩))
    (tasks : next.tasks
      = activity.tasks.set self (.dispatch ⟨snapshot, .finished (.ok outcomes)⟩))
    (lock : next.snapshotLock = activity.snapshotLock.release)
    (engine : next.engine = activity.engine) : next.Showing first snapshots := by
  have head := head_of_gathering turnsKept task
  cases showing with
  | between split turns applied alike => exact absurd task (turns.not_gathering head)
  | @within seen _ snapshot' _ split turns applied alike =>
    obtain ⟨rfl, -, turns'⟩ := turns.gather advances head task tasks lock
    have more : (seen ++ [snapshot']).length = seen.length + 1 := List.length_append ..
    have count : next.applied = activity.applied := applied_eq task tasks rfl
    exact .between split (more ▸ turns') (count.trans applied) (engine ▸ alike)

theorem Showing.step (showing : activity.Showing first snapshots)
    (turnsKept : activity.TurnsKept) (h : activity.TimelyStep backend self next) :
    next.Showing first snapshots := by
  have advances := h.step.advances
  cases id advances with
  | pause task busy => exact showing.run advances task rfl rfl (.refl _)
  | run task idle proceeds =>
    exact showing.run advances task rfl rfl (.of_proceeds proceeds)
  | queue task => exact showing.queue h task rfl rfl rfl
  | refuse task held observes => exact showing.refuse advances task held observes rfl rfl
  | spread task held observes fans => exact showing.spread advances task held observes rfl rfl
  | gather task known => exact showing.gather advances turnsKept task rfl rfl rfl

/-- Before any step, no snapshot has been applied. -/
theorem showing_processAll (engine : Engine σ) (snapshots : List Json) :
    (({ engine } : Activity σ).processAll snapshots).Showing engine snapshots := by
  have turns : (({ engine } : Activity σ).processAll snapshots).Between 0 snapshots :=
    between_processAll rfl snapshots
  refine .between (List.nil_append _).symm turns ?_ ?_
  · rw [processAll_eq]
    refine List.countP_eq_zero.2 fun task hmem => ?_
    obtain ⟨snapshot, -, rfl⟩ := List.mem_map.1 hmem
    exact Bool.false_ne_true
  · rw [processAll_eq]
    exact .refl _

/-- Whatever has been done, the engine has applied the first of the snapshots. -/
theorem TimelySteps.showing {initial : Engine σ} {log : List Contact}
    (steps : activity.TimelySteps backend next) (reached : Reached backend initial log activity)
    (showing : activity.Showing first snapshots) : next.Showing first snapshots := by
  induction steps with
  | refl => exact showing
  | tail steps step ih =>
    obtain ⟨more, steps⟩ := steps.steps
    exact ih.step (reached.steps steps).turnsKept step

end Activity

end HomeAutomation
