/-
  HomeAutomation.Proofs.Engine.Forecast

  What the runs of a fan-out will come to.  From the cell of a device as it is
  now, the turns there are known, and each run has its end ahead of it: carried
  out one after the other, `Plays`, they foretell the result of every run and
  the cell that is left.  A step of a run, whichever it is, changes nothing of
  what is foretold.
-/

import HomeAutomation.Proofs.Engine.Lineup
import HomeAutomation.Proofs.Engine.SeparateDevices
import HomeAutomation.Proofs.Engine.SingleDispatch

namespace HomeAutomation

theorem Run.phase_of_result? {run : Run} {result : Except ExecuteError ExecuteResult}
    (h : run.result? = some result) : run.phase = .finished result := by
  unfold result? at h
  split at h
  · rename_i phase
    rw [phase, Option.some.inj h]
  · cases h

namespace Activity

variable {σ δ : Type}

-- ============================================================================
-- Turns after a step
-- ============================================================================

section Turns

variable {backend : Backend σ} {activity next : Activity σ} {self : Nat} {run : Run}
  {step : RunStep σ} {target : DeviceTarget}

/-- A run at work holds the lock of its device. -/
theorem LocksKept.holds (kept : activity.LocksKept) (task : activity.tasks[self]? = some (.run run))
    (before : run.target? = some target)
    (held : run.isInside = true ∨ activity.locks.heldBy target.deviceId self = true) :
    (activity.locks.lock target.deviceId).line.head? = some self := by
  refine held.elim (fun inside => ?_) fun held => LockTable.heldBy_iff.1 held
  have claim : run.claim? = some target.deviceId := by rw [Run.claim?, before]; rfl
  exact (kept target.deviceId).inside_holds self (inside_of_task task inside claim)

/-- A run that stands in line has asked. -/
theorem LocksKept.not_bound_of_mem (kept : activity.LocksKept) {d : String} {id : Nat}
    (hid : id ∈ (activity.locks.lock d).line) :
    activity.tasks[id]?.any (Task.isBound activity.engine.directory d) = false := by
  have claim := ((kept d).mem_line id).1 hid
  obtain ⟨task, htask, hclaim⟩ := Option.bind_eq_some_iff.1 claim
  rw [htask, Option.any_some]
  cases task with
  | dispatch => cases hclaim
  | run run =>
    obtain ⟨target, ht, -⟩ := Option.map_eq_some_iff.1 hclaim
    exact Task.isBound_of_not_ready (Run.isReady_of_target? ht)

theorem LocksKept.nodup_lineup (kept : activity.LocksKept) (d : String) :
    (activity.lineup d).Nodup :=
  Lock.nodup_turns (kept d).nodup_line fun _ hid => kept.not_bound_of_mem hid

variable (task : activity.tasks[self]? = some (.run run))
  (tasks : next.tasks = activity.tasks.set self (.run step.run))
  (directory : next.engine.directory = activity.engine.directory) (locks : next.locks = step.locks)

include task tasks directory locks

/-- A step that neither asks nor leaves changes no turn. -/
theorem lineup_eq_of_stay (before : ∀ d, (Task.run run).isBound activity.engine.directory d = false)
    (after : step.run.isReady = false) (same : step.locks = activity.locks) (d : String) :
    next.lineup d = activity.lineup d := by
  rw [lineup, tasks, directory, locks, same]
  exact Lock.turns_set task ((Task.isBound_of_not_ready after).trans (before d).symm)

/-- Nor does asking. -/
theorem lineup_eq_of_ask (ordered : ∀ d, (Task.run run).isBound activity.engine.directory d = true →
      ∀ id < self, activity.tasks[id]?.any (Task.isBound activity.engine.directory d) = false)
    (ready : run.phase = .ready)
    (known : activity.engine.directory.resolve run.location run.kind.name = .ok target)
    (after : step.run.isReady = false)
    (asked : step.locks = activity.locks.acquire target.deviceId self) (d : String) :
    next.lineup d = activity.lineup d := by
  have hbound : (Task.run run).isBound activity.engine.directory d = (target.deviceId == d) := by
    simp [Task.isBound, Run.isReady, ready, known, Except.toOption]
  have hafter : (Task.run step.run).isBound activity.engine.directory d = false :=
    Task.isBound_of_not_ready after
  rw [lineup, lineup, tasks, directory, locks, asked, LockTable.lock_acquire]
  split
  · rename_i hd
    have had : (Task.run run).isBound activity.engine.directory d = true := by simp [hbound, hd]
    exact Lock.turns_acquire task had hafter (ordered d had)
  · rename_i hd
    exact Lock.turns_set task (hafter.trans (hbound.trans (beq_eq_false_iff_ne.2 hd)).symm)

/-- Leaving ends the first turn at the device. -/
theorem lineup_of_leave (kept : activity.LocksKept) (before : run.target? = some target)
    (held : run.isInside = true ∨ activity.locks.heldBy target.deviceId self = true)
    (after : step.run.isReady = false)
    (left : step.locks = (activity.locks.release target.deviceId).1) (d : String) :
    activity.lineup d
      = if target.deviceId = d then self :: next.lineup d else next.lineup d := by
  have same : (Task.run step.run).isBound activity.engine.directory d
      = (Task.run run).isBound activity.engine.directory d :=
    (Task.isBound_of_not_ready after).trans
      (Task.isBound_of_not_ready (Run.isReady_of_target? before)).symm
  rw [lineup, lineup, tasks, directory, locks, left, LockTable.lock_release]
  split
  · rename_i hd
    subst hd
    exact Lock.turns_release task same (kept.holds task before held)
  · exact (Lock.turns_set task same).symm

end Turns

-- ============================================================================
-- Runs played in turn
-- ============================================================================

variable {behavior : DeviceBehavior δ} {savePauses : Nat → Nat}
  {activity next : Activity (Devices δ)} {foretold : Nat → Except ExecuteError ExecuteResult}
  {last : String → Cell δ}

/-- Runs at a device, carried out one after the other, lead from one cell to another, and each to
    the result that was foretold. -/
inductive Plays (behavior : DeviceBehavior δ) (activity : Activity (Devices δ))
    (foretold : Nat → Except ExecuteError ExecuteResult) (deviceId : String) :
    List Nat → Cell δ → Cell δ → Prop
  | nil {cell : Cell δ} : Plays behavior activity foretold deviceId [] cell cell
  | cons {id : Nat} {ids : List Nat} {run : Run} {target : DeviceTarget} {cell after last : Cell δ}
      (task : activity.tasks[id]? = some (.run run))
      (known : activity.engine.directory.resolve run.location run.kind.name = .ok target)
      (device : target.deviceId = deviceId)
      (rest : run.rest behavior target (activity.engine.book.previous? run.action) cell
        = (after, foretold id))
      (plays : Plays behavior activity foretold deviceId ids after last) :
      Plays behavior activity foretold deviceId (id :: ids) cell last

theorem Plays.eq_of_nil {deviceId : String} {cell last : Cell δ}
    (plays : activity.Plays behavior foretold deviceId [] cell last) : cell = last := by
  cases plays
  rfl

/-- What is foretold depends on what is ahead of each run. -/
theorem Plays.congr {deviceId : String} {ids : List Nat} {cell last : Cell δ}
    (plays : activity.Plays behavior foretold deviceId ids cell last)
    (directory : next.engine.directory = activity.engine.directory)
    (same : ∀ id ∈ ids, ∀ (run : Run) (target : DeviceTarget),
      activity.tasks[id]? = some (.run run) →
      activity.engine.directory.resolve run.location run.kind.name = .ok target →
      target.deviceId = deviceId →
      ∃ run' : Run, next.tasks[id]? = some (.run run') ∧
        run'.location = run.location ∧ run'.kind = run.kind ∧
        run'.rest behavior target (next.engine.book.previous? run'.action)
          = run.rest behavior target (activity.engine.book.previous? run.action)) :
    next.Plays behavior foretold deviceId ids cell last := by
  induction plays with
  | nil => exact .nil
  | @cons id ids run target cell after last task known device rest _ ih =>
    obtain ⟨run', task', location, kind, ahead⟩ :=
      same id List.mem_cons_self run target task known device
    refine .cons task' ?_ device ?_ (ih fun id hid => same id (List.mem_cons_of_mem _ hid))
    · rw [directory, location, kind]
      exact known
    · rw [ahead]
      exact rest

theorem Plays.foretell {other : Nat → Except ExecuteError ExecuteResult} {deviceId : String}
    {ids : List Nat} {cell last : Cell δ}
    (plays : activity.Plays behavior foretold deviceId ids cell last)
    (same : ∀ id ∈ ids, other id = foretold id) :
    activity.Plays behavior other deviceId ids cell last := by
  induction plays with
  | nil => exact .nil
  | cons task known device rest _ ih =>
    refine .cons task known device ?_ (ih fun id hid => same id (List.mem_cons_of_mem _ hid))
    rw [same _ List.mem_cons_self]
    exact rest

-- ============================================================================
-- Steps of runs
-- ============================================================================

section Steps

variable {self : Nat} {run : Run} {step : RunStep (Devices δ)}

/-- What is ahead of the other runs does not change with a step of one. -/
theorem Assigned.rest_other (assigned : activity.Assigned) (kept : activity.LocksKept)
    (task : activity.tasks[self]? = some (.run run))
    (proceeds : run.Proceeds (behavior.backend savePauses) self activity.engine activity.locks step)
    {id : Nat} {other : Run} (task' : activity.tasks[id]? = some (.run other)) (hid : id ≠ self)
    (target : DeviceTarget) :
    other.rest behavior target (step.engine.book.previous? other.action)
      = other.rest behavior target (activity.engine.book.previous? other.action) := by
  rcases proceeds.book_eq_or_isInside with same | inside
  · rw [same]
  · cases outside : other.isInside with
    | false => exact funext fun cell => Run.rest_of_outside outside _ _ cell
    | true =>
      -- two runs of one action would be inside at one device
      refine congrArg _ (proceeds.previous?_ne fun action => hid ?_)
      obtain ⟨t, ht⟩ := Run.exists_target_of_isInside inside
      obtain ⟨t', ht'⟩ := Run.exists_target_of_isInside outside
      have claim : run.claim? = some t.deviceId := by rw [Run.claim?, ht]; rfl
      have claim' : other.claim? = some t'.deviceId := by rw [Run.claim?, ht']; rfl
      have device : t.deviceId = t'.deviceId :=
        assigned.claim?_eq task task' action claim claim'
      exact (kept t.deviceId).inside_unique (inside_of_task task' outside (device ▸ claim'))
        (inside_of_task task inside claim)

/-- What is ahead of a run does not change with its own step. -/
theorem Assigned.rest_self (assigned : activity.Assigned)
    (task : activity.tasks[self]? = some (.run run))
    (proceeds : run.Proceeds (behavior.backend savePauses) self activity.engine activity.locks step)
    {target : DeviceTarget}
    (known : activity.engine.directory.resolve run.location run.kind.name = .ok target) :
    step.run.rest behavior target (step.engine.book.previous? run.action)
        (step.engine.cell target.deviceId)
      = run.rest behavior target (activity.engine.book.previous? run.action)
          (activity.engine.cell target.deviceId) := by
  obtain ⟨plan, hplan, -⟩ := assigned.carries task
  obtain ⟨a, ha, -⟩ := Option.map_eq_some_iff.1 hplan
  refine proceeds.rest_eq known (fun found hfound => ?_) ha
  exact Except.ok.inj ((assigned.resolves task hfound).symm.trans known)

/-- Runs other than the one that steps are played as before. -/
theorem Plays.others {deviceId : String} {ids : List Nat} {cell last : Cell δ}
    (plays : activity.Plays behavior foretold deviceId ids cell last)
    (assigned : activity.Assigned) (kept : activity.LocksKept)
    (task : activity.tasks[self]? = some (.run run))
    (proceeds : run.Proceeds (behavior.backend savePauses) self activity.engine activity.locks step)
    (tasks : next.tasks = activity.tasks.set self (.run step.run))
    (engine : next.engine = step.engine)
    (apart : self ∈ ids → ∀ target,
      activity.engine.directory.resolve run.location run.kind.name = .ok target →
      target.deviceId ≠ deviceId) :
    next.Plays behavior foretold deviceId ids cell last := by
  refine plays.congr (by rw [engine, proceeds.directory_eq])
    fun id hmem other target task' known device => ?_
  have hid : id ≠ self := by
    rintro rfl
    obtain rfl : run = other := by simpa [task] using task'
    exact apart hmem target known device
  refine ⟨other, ?_, rfl, rfl, ?_⟩
  · rw [tasks, getElem?_set_task task, if_neg hid]
    exact task'
  · rw [engine]
    exact assigned.rest_other kept task proceeds task' hid target

/-- The run at the head of a line is the next to be played. -/
theorem Plays.head {target : DeviceTarget} {cell : Cell δ}
    (plays : activity.Plays behavior foretold target.deviceId (activity.lineup target.deviceId)
      (activity.engine.cell target.deviceId) cell)
    (assigned : activity.Assigned) (kept : activity.LocksKept)
    (task : activity.tasks[self]? = some (.run run))
    (proceeds : run.Proceeds (behavior.backend savePauses) self activity.engine activity.locks step)
    (tasks : next.tasks = activity.tasks.set self (.run step.run))
    (engine : next.engine = step.engine)
    (known : activity.engine.directory.resolve run.location run.kind.name = .ok target)
    (holds : (activity.locks.lock target.deviceId).line.head? = some self) :
    ∃ tail after, activity.lineup target.deviceId = self :: tail ∧
      step.run.rest behavior target (step.engine.book.previous? run.action)
        (step.engine.cell target.deviceId) = (after, foretold self) ∧
      next.Plays behavior foretold target.deviceId tail after cell := by
  obtain ⟨line, hline⟩ := List.head?_eq_some_iff.1 holds
  obtain ⟨tail, htail⟩ : ∃ tail, activity.lineup target.deviceId = self :: tail :=
    ⟨_, by rw [lineup, Lock.turns, hline, List.cons_append]⟩
  have nodup := kept.nodup_lineup target.deviceId
  rw [htail] at plays nodup
  cases plays with
  | @cons _ _ run' target' _ after _ task' known' device rest plays =>
    obtain rfl : run = run' := by simpa [task] using task'
    obtain rfl : target = target' := Except.ok.inj (known.symm.trans known')
    refine ⟨tail, after, htail, (assigned.rest_self task proceeds known).trans rest, ?_⟩
    exact plays.others assigned kept task proceeds tasks engine
      fun hmem => absurd hmem (List.nodup_cons.1 nodup).1

/-- A step of a run leaves the turns of other devices to be played as before. -/
theorem Plays.elsewhere {target : DeviceTarget} {d : String} {cell : Cell δ}
    (plays : activity.Plays behavior foretold d (activity.lineup d) (activity.engine.cell d) cell)
    (assigned : activity.Assigned) (kept : activity.LocksKept)
    (task : activity.tasks[self]? = some (.run run))
    (proceeds : run.Proceeds (behavior.backend savePauses) self activity.engine activity.locks step)
    (tasks : next.tasks = activity.tasks.set self (.run step.run))
    (engine : next.engine = step.engine) (before : run.target? = some target)
    (hd : target.deviceId ≠ d) (lineup : next.lineup d = activity.lineup d) :
    next.Plays behavior foretold d (next.lineup d) (next.engine.cell d) cell := by
  have known := assigned.resolves task before
  have hcell : next.engine.cell d = activity.engine.cell d := by
    rw [engine]
    refine proceeds.cell_ne fun found hfound => ?_
    obtain rfl : target = found := Option.some.inj (before.symm.trans hfound)
    exact hd.symm
  rw [lineup, hcell]
  refine plays.others assigned kept task proceeds tasks engine fun _ found hfound => ?_
  obtain rfl : target = found := Except.ok.inj (known.symm.trans hfound)
  exact hd

section Turns

variable
  (plays : ∀ d,
    activity.Plays behavior foretold d (activity.lineup d) (activity.engine.cell d) (last d))
  (task : activity.tasks[self]? = some (.run run))
  (proceeds : run.Proceeds (behavior.backend savePauses) self activity.engine activity.locks step)
  (tasks : next.tasks = activity.tasks.set self (.run step.run))
  (engine : next.engine = step.engine) (locks : next.locks = step.locks)

include plays task proceeds tasks engine locks

/-- To stand in line changes nothing of what is ahead. -/
theorem Plays.ask {target : DeviceTarget}
    (ordered : ∀ d, (Task.run run).isBound activity.engine.directory d = true →
      ∀ id < self, activity.tasks[id]?.any (Task.isBound activity.engine.directory d) = false)
    (ready : run.phase = .ready)
    (known : activity.engine.directory.resolve run.location run.kind.name = .ok target)
    (engine_eq : step.engine = activity.engine)
    (locks_eq : step.locks = activity.locks.acquire target.deviceId self)
    (queued : step.run.phase = .queued target) (d : String) :
    next.Plays behavior foretold d (next.lineup d) (next.engine.cell d) (last d) := by
  have directory : next.engine.directory = activity.engine.directory := by
    rw [engine, proceeds.directory_eq]
  rw [lineup_eq_of_ask task tasks directory locks ordered ready known
    (by rw [Run.isReady, queued]) locks_eq, engine, engine_eq]
  refine (plays d).congr directory fun id _ other target' task' _ _ => ?_
  by_cases hid : id = self
  · subst hid
    obtain rfl : run = other := by simpa [task] using task'
    have own : next.tasks[id]? = some (.run step.run) := by
      rw [tasks, getElem?_set_task task, if_pos rfl]
    have hrun := proceeds.run_eq
    refine ⟨step.run, own, by rw [hrun]; rfl, by rw [hrun]; rfl, funext fun cell => ?_⟩
    rw [hrun, Run.rest, Run.rest, ready]
    simp only [Run.enter, queued]
    rfl
  · refine ⟨other, ?_, rfl, rfl, by rw [engine, engine_eq]⟩
    rw [tasks, getElem?_set_task task, if_neg hid]
    exact task'

variable (assigned : activity.Assigned) (kept : activity.LocksKept)

include assigned kept

/-- A run whose device is unknown plays no part. -/
theorem Plays.unmapped {e : DeviceNotFound}
    (unknown : activity.engine.directory.resolve run.location run.kind.name = .error e)
    (engine_eq : step.engine = activity.engine) (locks_eq : step.locks = activity.locks)
    (isOver : step.run.phase = .finished (.error (.notFound e))) (d : String) :
    next.Plays behavior foretold d (next.lineup d) (next.engine.cell d) (last d) := by
  have directory : next.engine.directory = activity.engine.directory := by
    rw [engine, proceeds.directory_eq]
  have unbound (d : String) : (Task.run run).isBound activity.engine.directory d = false := by
    simp [Task.isBound, unknown, Except.toOption]
  rw [lineup_eq_of_stay task tasks directory locks unbound (Run.isReady_of_finished isOver)
    locks_eq, engine, engine_eq]
  refine (plays d).others assigned kept task proceeds tasks engine fun _ target known => ?_
  cases known.symm.trans unknown

/-- A run that goes on at its device keeps the first turn there. -/
theorem Plays.stay {target : DeviceTarget} (before : run.target? = some target)
    (held : run.isInside = true ∨ activity.locks.heldBy target.deviceId self = true)
    (locks_eq : step.locks = activity.locks) (after : step.run.target? = some target)
    (d : String) :
    next.Plays behavior foretold d (next.lineup d) (next.engine.cell d) (last d) := by
  have directory : next.engine.directory = activity.engine.directory := by
    rw [engine, proceeds.directory_eq]
  have known := assigned.resolves task before
  have lineup_eq := lineup_eq_of_stay task tasks directory locks
    (fun d => Task.isBound_of_not_ready (Run.isReady_of_target? before))
    (Run.isReady_of_target? after) locks_eq
  by_cases hd : target.deviceId = d
  · subst hd
    obtain ⟨tail, cell, htail, rest, hplays⟩ := (plays _).head assigned kept task proceeds tasks
      engine known (kept.holds task before held)
    have own : next.tasks[self]? = some (.run step.run) := by
      rw [tasks, getElem?_set_task task, if_pos rfl]
    have hrun := proceeds.run_eq
    rw [lineup_eq, htail]
    refine .cons own ?_ rfl ?_ hplays
    · rw [directory, hrun]
      exact known
    · rw [engine, ← rest, hrun]
      rfl
  · exact (plays d).elsewhere assigned kept task proceeds tasks engine before hd (lineup_eq d)

/-- A run that leaves its device has come to what was foretold. -/
theorem Plays.leave {target : DeviceTarget} {result : Except ExecuteError ExecuteResult}
    (before : run.target? = some target)
    (held : run.isInside = true ∨ activity.locks.heldBy target.deviceId self = true)
    (locks_eq : step.locks = (activity.locks.release target.deviceId).1)
    (isOver : step.run.phase = .finished result) :
    result = foretold self ∧
      ∀ d, next.Plays behavior foretold d (next.lineup d) (next.engine.cell d) (last d) := by
  have directory : next.engine.directory = activity.engine.directory := by
    rw [engine, proceeds.directory_eq]
  have known := assigned.resolves task before
  have lineup_eq := lineup_of_leave task tasks directory locks kept before held
    (Run.isReady_of_finished isOver) locks_eq
  obtain ⟨tail, cell, htail, rest, hplays⟩ := (plays _).head assigned kept task proceeds tasks
    engine known (kept.holds task before held)
  rw [Run.rest, isOver] at rest
  obtain ⟨hcell, hresult⟩ := Prod.mk.inj rest
  refine ⟨hresult, fun d => ?_⟩
  by_cases hd : target.deviceId = d
  · subst hd
    have turns := lineup_eq target.deviceId
    rw [if_pos rfl, htail] at turns
    rw [← (List.cons.inj turns).2, engine, hcell]
    exact hplays
  · refine (plays d).elsewhere assigned kept task proceeds tasks engine before hd ?_
    rw [lineup_eq d, if_neg hd]

/-- A run plays its part at its device, and ends as was foretold. -/
theorem Plays.turn
    (ordered : ∀ d, (Task.run run).isBound activity.engine.directory d = true →
      ∀ id < self, activity.tasks[id]?.any (Task.isBound activity.engine.directory d) = false) :
    (∀ d, next.Plays behavior foretold d (next.lineup d) (next.engine.cell d) (last d)) ∧
      ∀ result, step.run.phase = .finished result → result = foretold self ∨
        ∃ e, activity.engine.directory.resolve run.location run.kind.name = .error e ∧
          result = .error (.notFound e) := by
  cases proceeds.turn with
  | @unmapped e ready unknown engine_eq locks_eq isOver =>
    refine ⟨Plays.unmapped plays task proceeds tasks engine locks assigned kept unknown engine_eq
      locks_eq isOver, fun result isOver' => .inr ⟨e, unknown, ?_⟩⟩
    exact RunPhase.finished.inj (isOver'.symm.trans isOver)
  | @ask target ready known engine_eq locks_eq queued =>
    refine ⟨Plays.ask plays task proceeds tasks engine locks ordered ready known engine_eq
      locks_eq queued, fun result isOver => ?_⟩
    cases queued.symm.trans isOver
  | @stay target before held locks_eq after =>
    refine ⟨Plays.stay plays task proceeds tasks engine locks assigned kept before held locks_eq
      after, fun result isOver => ?_⟩
    rw [Run.target?, isOver] at after
    cases after
  | @leave target result before held locks_eq isOver =>
    obtain ⟨foreseen, plays⟩ := Plays.leave plays task proceeds tasks engine locks assigned kept
      before held locks_eq isOver
    refine ⟨plays, fun result' isOver' => .inl ?_⟩
    obtain rfl : result = result' := RunPhase.finished.inj (isOver.symm.trans isOver')
    exact foreseen

end Turns

end Steps

-- ============================================================================
-- The forecast of a fan-out
-- ============================================================================

/-- What is foretold of a fan-out.  The runs that are under way belong to its slots; they will leave
    the devices as `last` says. -/
structure Forecast (behavior : DeviceBehavior δ) (activity : Activity (Devices δ))
    (slots : List Slot) (foretold : Nat → Except ExecuteError ExecuteResult)
    (last : String → Cell δ) : Prop where
  plays : ∀ d,
    activity.Plays behavior foretold d (activity.lineup d) (activity.engine.cell d) (last d)
  unmapped : ∀ {id : Nat} {run : Run} {e : DeviceNotFound}, activity.tasks[id]? = some (.run run) →
    run.result? = none →
    activity.engine.directory.resolve run.location run.kind.name = .error e →
    foretold id = .error (.notFound e)
  covered : ∀ {id : Nat} {run : Run}, activity.tasks[id]? = some (.run run) →
    run.result? = none → ∃ slot ∈ slots, slot.run = some id
  settled : ∀ slot ∈ slots, ∀ id, slot.run = some id →
    ∃ run, activity.tasks[id]? = some (.run run) ∧
      ∀ result, run.result? = some result → result = foretold id

namespace Forecast

variable {slots : List Slot} {self : Nat} {run : Run}

/-- How often calls still suspend is not foretold, nor how far dispatches have come. -/
theorem congr (forecast : activity.Forecast behavior slots foretold last)
    (engine : next.engine = activity.engine) (lineup : ∀ d, next.lineup d = activity.lineup d)
    (ahead : ∀ (id : Nat) (run : Run), activity.tasks[id]? = some (.run run) →
      ∃ pauses, next.tasks[id]? = some (.run { run with pauses }))
    (back : ∀ (id : Nat) (run : Run), next.tasks[id]? = some (.run run) →
      ∃ pauses, activity.tasks[id]? = some (.run { run with pauses })) :
    next.Forecast behavior slots foretold last where
  plays d := by
    rw [lineup, engine]
    refine (forecast.plays d).congr (by rw [engine]) fun id _ run target task _ _ => ?_
    obtain ⟨pauses, task'⟩ := ahead id run task
    exact ⟨_, task', rfl, rfl, by rw [engine]; rfl⟩
  unmapped {id run e} task working unknown := by
    obtain ⟨pauses, task'⟩ := back id run task
    rw [engine] at unknown
    exact forecast.unmapped task' working unknown
  covered {id run} task working := by
    obtain ⟨pauses, task'⟩ := back id run task
    exact forecast.covered task' working
  settled slot hslot id hid := by
    obtain ⟨run, task, known⟩ := forecast.settled slot hslot id hid
    obtain ⟨pauses, task'⟩ := ahead id run task
    exact ⟨_, task', known⟩

theorem pause (forecast : activity.Forecast behavior slots foretold last) {pauses : Nat}
    (task : activity.tasks[self]? = some (.run run)) :
    (activity.put self (.run { run with pauses })).Forecast behavior slots foretold last := by
  refine forecast.congr rfl (fun d => Lock.turns_set task rfl) (fun id r task' => ?_)
    fun id r task' => ?_
  · by_cases hid : id = self
    · subst hid
      obtain rfl : run = r := by simpa [task] using task'
      exact ⟨pauses, by rw [put, getElem?_set_task task, if_pos rfl]⟩
    · exact ⟨r.pauses, by rw [put, getElem?_set_task task, if_neg hid]; exact task'⟩
  · rw [put, getElem?_set_task task] at task'
    split at task'
    · rename_i hid
      subst hid
      obtain rfl : { run with pauses } = r := by simpa using task'
      exact ⟨run.pauses, task⟩
    · exact ⟨r.pauses, task'⟩

theorem dispatch (forecast : activity.Forecast behavior slots foretold last) {old new : Dispatch}
    (task : activity.tasks[self]? = some (.dispatch old))
    (tasks : next.tasks = activity.tasks.set self (.dispatch new))
    (engine : next.engine = activity.engine) (locks : next.locks = activity.locks) :
    next.Forecast behavior slots foretold last := by
  have same (id : Nat) (r : Run) : next.tasks[id]? = some (.run r)
      ↔ activity.tasks[id]? = some (.run r) := by
    rw [tasks, getElem?_set_task task]
    split
    · rename_i hid
      simp [hid, task]
    · rfl
  refine forecast.congr engine (fun d => ?_) (fun id r task' => ⟨r.pauses, (same id r).2 task'⟩)
    fun id r task' => ⟨r.pauses, (same id r).1 task'⟩
  rw [lineup, lineup, engine, locks, tasks]
  exact Lock.turns_set task rfl

/-- A step of a run comes as was foretold. -/
theorem proceed (forecast : activity.Forecast behavior slots foretold last)
    (assigned : activity.Assigned) (kept : activity.LocksKept) {step : RunStep (Devices δ)}
    (task : activity.tasks[self]? = some (.run run))
    (proceeds : run.Proceeds (behavior.backend savePauses) self activity.engine activity.locks step)
    (ordered : ∀ d, (Task.run run).isBound activity.engine.directory d = true →
      ∀ id < self, activity.tasks[id]?.any (Task.isBound activity.engine.directory d) = false)
    (tasks : next.tasks = activity.tasks.set self (.run step.run))
    (engine : next.engine = step.engine) (locks : next.locks = step.locks) :
    next.Forecast behavior slots foretold last := by
  obtain ⟨plays, ends⟩ := Plays.turn forecast.plays task proceeds tasks engine locks assigned kept
    ordered
  have working : run.result? = none := proceeds.result?_eq_none
  have location : step.run.location = run.location := by rw [proceeds.run_eq]; rfl
  have kind : step.run.kind = run.kind := by rw [proceeds.run_eq]; rfl
  have back {id : Nat} {r : Run} (task' : next.tasks[id]? = some (.run r))
      (open' : r.result? = none) :
      ∃ r', activity.tasks[id]? = some (.run r') ∧ r'.result? = none ∧ r.location = r'.location ∧
        r.kind = r'.kind := by
    rw [tasks, getElem?_set_task task] at task'
    split at task'
    · rename_i hid
      obtain rfl : step.run = r := by simpa using task'
      exact ⟨run, hid ▸ task, working, location, kind⟩
    · exact ⟨r, task', open', rfl, rfl⟩
  refine ⟨plays, fun {id r e} task' open' unknown => ?_, fun {id r} task' open' => ?_,
    fun slot hslot id hid => ?_⟩
  · obtain ⟨r', old, open', location, kind⟩ := back task' open'
    rw [engine, proceeds.directory_eq, location, kind] at unknown
    exact forecast.unmapped old open' unknown
  · obtain ⟨r', old, open', -, -⟩ := back task' open'
    exact forecast.covered old open'
  · obtain ⟨r, old, known⟩ := forecast.settled slot hslot id hid
    by_cases own : id = self
    · subst own
      refine ⟨step.run, by rw [tasks, getElem?_set_task task, if_pos rfl], fun result isOver => ?_⟩
      rcases ends result (Run.phase_of_result? isOver) with foreseen | ⟨e, unknown, rfl⟩
      · exact foreseen
      · exact (forecast.unmapped task working unknown).symm
    · exact ⟨r, by rw [tasks, getElem?_set_task task, if_neg own]; exact old, known⟩

end Forecast

end Activity

end HomeAutomation
