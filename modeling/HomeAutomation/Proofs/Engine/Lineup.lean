/-
  HomeAutomation.Proofs.Engine.Lineup

  The order in which tasks get their turns.  If tasks start in the order of
  their numbers, then the line of a lock followed by those that will ask for it
  is the same before and after anyone asks, and a release takes the first away:
  all turns are known before anyone has asked.
-/

import HomeAutomation.Proofs.Engine.Serialization

namespace HomeAutomation

variable {σ : Type}

-- ============================================================================
-- Turns at one lock
-- ============================================================================

namespace Task

variable {tasks : List Task} {p : Task → Bool} {self : Nat} {old new : Task}

/-- A task stands between those before it and those after it. -/
theorem exists_append (task : tasks[self]? = some old) :
    ∃ before after, tasks = before ++ old :: after ∧ before.length = self := by
  obtain ⟨hself, rfl⟩ := List.getElem?_eq_some_iff.1 task
  exact ⟨tasks.take self, tasks.drop (self + 1), by simp, by simp; omega⟩

theorem findIdxs_set_of_eq (task : tasks[self]? = some old) (same : p new = p old) :
    (tasks.set self new).findIdxs p = tasks.findIdxs p := by
  obtain ⟨before, after, rfl, rfl⟩ := exists_append task
  simp [List.findIdxs_append, same]

/-- The first task with a property loses it. -/
theorem findIdxs_eq_cons (task : tasks[self]? = some old) (had : p old = true)
    (lost : p new = false) (first : ∀ id < self, tasks[id]?.any p = false) :
    tasks.findIdxs p = self :: (tasks.set self new).findIdxs p := by
  obtain ⟨before, after, rfl, rfl⟩ := exists_append task
  have none_before : before.findIdxs p = [] := by
    refine List.findIdxs_eq_nil_iff.2 fun x hx => ?_
    obtain ⟨id, hid, rfl⟩ := List.getElem_of_mem hx
    have := first id hid
    rwa [List.getElem?_append_left hid, List.getElem?_eq_getElem hid] at this
  simp [List.findIdxs_append, none_before, had, lost]

end Task

namespace Lock

/-- Those who stand in line for a lock, then those who will ask for it, by number. -/
def turns (lock : Lock) (asking : Task → Bool) (tasks : List Task) : List Nat :=
  lock.line ++ tasks.findIdxs asking

variable {lock : Lock} {asking : Task → Bool} {tasks : List Task} {self : Nat} {old new : Task}

theorem turns_set (task : tasks[self]? = some old) (same : asking new = asking old) :
    lock.turns asking (tasks.set self new) = lock.turns asking tasks := by
  rw [turns, turns, Task.findIdxs_set_of_eq task same]

/-- Asking in order changes no turn. -/
theorem turns_acquire (task : tasks[self]? = some old) (had : asking old = true)
    (lost : asking new = false) (first : ∀ id < self, tasks[id]?.any asking = false) :
    (lock.acquire self).turns asking (tasks.set self new) = lock.turns asking tasks := by
  rw [turns, turns, Task.findIdxs_eq_cons task had lost first, acquire, List.append_assoc]
  rfl

/-- A release ends the first turn. -/
theorem turns_release (task : tasks[self]? = some old) (same : asking new = asking old)
    (held : lock.line.head? = some self) :
    lock.turns asking tasks = self :: lock.release.turns asking (tasks.set self new) := by
  obtain ⟨rest, hline⟩ := List.head?_eq_some_iff.1 held
  rw [turns, turns, Task.findIdxs_set_of_eq task same, hline, release, hline]
  rfl

theorem nodup_turns (nodup : lock.line.Nodup)
    (apart : ∀ id ∈ lock.line, tasks[id]?.any asking = false) :
    (lock.turns asking tasks).Nodup := by
  refine List.nodup_append.2 ⟨nodup, List.nodup_findIdxs, fun id hid other hother => ?_⟩
  rintro rfl
  obtain ⟨hlt, hp⟩ := List.mem_findIdxs_iff_exists_getElem_pos.1 hother
  have := apart id hid
  rw [List.getElem?_eq_getElem hlt, Option.any_some] at this
  rw [this] at hp
  cases hp

end Lock

-- ============================================================================
-- Tasks that have not started
-- ============================================================================

/-- Whether a run has done nothing yet. -/
def Run.isReady (run : Run) : Bool :=
  match run.phase with
  | .ready => true
  | _ => false

namespace Task

/-- Whether a task has done nothing yet. -/
def isReady : Task → Bool
  | run r => r.isReady
  | dispatch ⟨_, .ready⟩ => true
  | dispatch _ => false

/-- Whether a task is a dispatch that has done nothing yet. -/
def isUnopened : Task → Bool
  | dispatch ⟨_, .ready⟩ => true
  | _ => false

/-- Whether a task is a run that has done nothing yet and will ask for the lock of a device. -/
def isBound (directory : Directory) (deviceId : String) : Task → Bool
  | run r => r.isReady &&
    (directory.resolve r.location r.kind.name).toOption.any (·.deviceId == deviceId)
  | dispatch _ => false

/-- Whether a task is a run that has done nothing yet. -/
def isReadyRun : Task → Bool
  | run r => r.isReady
  | dispatch _ => false

theorem isReadyRun_of_isBound {directory : Directory} {deviceId : String} {task : Task}
    (h : task.isBound directory deviceId = true) : task.isReadyRun = true := by
  cases task with
  | run r => exact (Bool.and_eq_true_iff.1 h).1
  | dispatch => cases h

theorem isReady_of_isReadyRun {task : Task} (h : task.isReadyRun = true) :
    task.isReady = true := by
  cases task with
  | run r => exact h
  | dispatch => cases h

theorem isReady_of_isUnopened {task : Task} (h : task.isUnopened = true) :
    task.isReady = true := by
  unfold isUnopened at h
  split at h
  · rfl
  · cases h

theorem isBound_of_not_ready {directory : Directory} {deviceId : String} {run : Run}
    (h : run.isReady = false) : (Task.run run).isBound directory deviceId = false := by
  rw [isBound, h, Bool.false_and]

end Task

theorem Run.isReady_of_target? {run : Run} {target : DeviceTarget}
    (h : run.target? = some target) : run.isReady = false := by
  unfold target? at h
  unfold isReady
  split at h <;> simp_all

theorem Run.isReady_of_finished {run : Run} {result : Except ExecuteError ExecuteResult}
    (h : run.phase = .finished result) : run.isReady = false := by
  rw [isReady, h]

-- ============================================================================
-- Ordered steps
-- ============================================================================

namespace Activity

/-- A step under a schedule that starts tasks in the order of their numbers. -/
structure OrderedStep (backend : Backend σ) (activity : Activity σ) (id : Nat)
    (next : Activity σ) : Prop where
  step : activity.Step backend id next
  inOrder : activity.has Task.isReady id = true →
    ∀ other < id, activity.has Task.isReady other = false

/-- Any number of such steps. -/
inductive OrderedSteps (backend : Backend σ) (activity : Activity σ) : Activity σ → Prop
  | refl : OrderedSteps backend activity activity
  | tail {middle next : Activity σ} {self : Nat} (steps : OrderedSteps backend activity middle)
      (step : middle.OrderedStep backend self next) : OrderedSteps backend activity next

/-- A step under a schedule that starts dispatches in the order of their numbers, and runs in the
    order of theirs.  A dispatch may start before runs or after them. -/
structure TimelyStep (backend : Backend σ) (activity : Activity σ) (id : Nat)
    (next : Activity σ) : Prop where
  step : activity.Step backend id next
  dispatches : activity.has Task.isUnopened id = true →
    ∀ other < id, activity.has Task.isUnopened other = false
  runs : activity.has Task.isReadyRun id = true →
    ∀ other < id, activity.has Task.isReadyRun other = false

/-- Any number of such steps. -/
inductive TimelySteps (backend : Backend σ) (activity : Activity σ) : Activity σ → Prop
  | refl : TimelySteps backend activity activity
  | tail {middle next : Activity σ} {self : Nat} (steps : TimelySteps backend activity middle)
      (step : middle.TimelyStep backend self next) : TimelySteps backend activity next

variable {backend : Backend σ} {activity next : Activity σ} {self : Nat}

theorem OrderedSteps.steps (h : activity.OrderedSteps backend next) :
    ∃ log, activity.Steps backend log next := by
  induction h with
  | refl => exact ⟨[], .refl⟩
  | tail _ step ih =>
    obtain ⟨log, steps⟩ := ih
    exact ⟨_, steps.tail step.step⟩

theorem OrderedSteps.head {middle : Activity σ} (steps : middle.OrderedSteps backend next)
    (step : activity.OrderedStep backend self middle) : activity.OrderedSteps backend next := by
  induction steps with
  | refl => exact .tail .refl step
  | tail _ last ih => exact .tail ih last

theorem any_eq_false_of_has {p q : Task → Bool} (implies : ∀ task, q task = true → p task = true)
    {id : Nat} (absent : activity.has p id = false) : activity.tasks[id]?.any q = false := by
  rw [has] at absent
  cases found : activity.tasks[id]? with
  | none => rfl
  | some task =>
    rw [found, Option.any_some] at absent
    rw [Option.any_some, Bool.eq_false_iff]
    intro hq
    rw [implies task hq] at absent
    cases absent

theorem OrderedStep.timely (h : activity.OrderedStep backend self next) :
    activity.TimelyStep backend self next := by
  have starts {q : Task → Bool} (unstarted : ∀ task, q task = true → task.isReady = true)
      (ready : activity.has q self = true) (other : Nat) (before : other < self) :
      activity.has q other = false := by
    refine any_eq_false_of_has unstarted (h.inOrder ?_ other before)
    rw [has] at ready ⊢
    obtain ⟨task, found, holds⟩ := (Option.any_eq_true _ _).1 ready
    exact (Option.any_eq_true _ _).2 ⟨task, found, unstarted task holds⟩
  exact ⟨h.step, starts fun _ => Task.isReady_of_isUnopened,
    starts fun _ => Task.isReady_of_isReadyRun⟩

theorem OrderedSteps.timely (h : activity.OrderedSteps backend next) :
    activity.TimelySteps backend next := by
  induction h with
  | refl => exact .refl
  | tail _ step ih => exact ih.tail step.timely

theorem TimelySteps.steps (h : activity.TimelySteps backend next) :
    ∃ log, activity.Steps backend log next := by
  induction h with
  | refl => exact ⟨[], .refl⟩
  | tail _ step ih =>
    obtain ⟨log, steps⟩ := ih
    exact ⟨_, steps.tail step.step⟩

/-- A dispatch that starts is the first of those that have not. -/
theorem TimelyStep.first_unopened (h : activity.TimelyStep backend self next) {old : Task}
    (task : activity.tasks[self]? = some old) (unopened : old.isUnopened = true) :
    ∀ id < self, activity.tasks[id]?.any Task.isUnopened = false :=
  h.dispatches (by rw [has, task]; exact unopened)

/-- A run that starts is the first of those bound for its device. -/
theorem TimelyStep.first_bound (h : activity.TimelyStep backend self next) {old : Task}
    (task : activity.tasks[self]? = some old) {directory : Directory} {deviceId : String}
    (bound : old.isBound directory deviceId = true) :
    ∀ id < self, activity.tasks[id]?.any (Task.isBound directory deviceId) = false := by
  have ready : activity.has Task.isReadyRun self = true := by
    rw [has, task]
    exact Task.isReadyRun_of_isBound bound
  exact fun id before =>
    any_eq_false_of_has (fun _ => Task.isReadyRun_of_isBound) (h.runs ready id before)

-- ============================================================================
-- Turns at the devices
-- ============================================================================

/-- The turns of the runs at a device. -/
def lineup (activity : Activity σ) (deviceId : String) : List Nat :=
  (activity.locks.lock deviceId).turns (Task.isBound activity.engine.directory deviceId)
    activity.tasks

end Activity

namespace Run

/-- What a step of a run does to the turns at its device. -/
inductive Turn (self : Nat) (engine : Engine σ) (locks : LockTable) (run : Run)
    (step : RunStep σ) : Prop
  | unmapped {e} (ready : run.phase = .ready)
      (unknown : engine.directory.resolve run.location run.kind.name = .error e)
      (engine_eq : step.engine = engine) (locks_eq : step.locks = locks)
      (isOver : step.run.phase = .finished (.error (.notFound e)))
  | ask {target} (ready : run.phase = .ready)
      (known : engine.directory.resolve run.location run.kind.name = .ok target)
      (engine_eq : step.engine = engine)
      (locks_eq : step.locks = locks.acquire target.deviceId self)
      (queued : step.run.phase = .queued target)
  | stay {target} (before : run.target? = some target)
      (held : run.isInside = true ∨ locks.heldBy target.deviceId self = true)
      (locks_eq : step.locks = locks) (after : step.run.target? = some target)
  | leave {target result} (before : run.target? = some target)
      (held : run.isInside = true ∨ locks.heldBy target.deviceId self = true)
      (locks_eq : step.locks = (locks.release target.deviceId).1)
      (isOver : step.run.phase = .finished result)

theorem Proceeds.turn {run : Run} {backend : Backend σ} {self : Nat} {engine : Engine σ}
    {locks : LockTable} {step : RunStep σ}
    (h : run.Proceeds backend self engine locks step) : run.Turn self engine locks step := by
  cases h with
  | unmapped phase unknown => exact .unmapped phase unknown rfl rfl rfl
  | ask phase known => exact .ask phase known rfl rfl rfl
  | begin phase held => exact .stay (by rw [target?, phase]) (.inr held) rfl rfl
  | skip phase held => exact .leave (by rw [target?, phase]) (.inr held) rfl rfl
  | read phase | restore phase | accept phase | restored phase =>
    exact .stay (by rw [target?, phase]) (.inl (by rw [isInside, phase])) rfl rfl
  | abandon phase | unrestored phase | save phase =>
    exact .leave (by rw [target?, phase]) (.inl (by rw [isInside, phase])) rfl rfl

end Run

end HomeAutomation
