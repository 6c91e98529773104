/-
  HomeAutomation.Proofs.Engine.Stage

  The engine refines one without concurrency.  Snapshots that are submitted
  together are dispatched one after the other in the order of submission, and
  what the runs of each fan-out come to is what acting on its notifications one
  after the other foretells.  A `Stage` says how far the dispatches have come:
  the engine stands between two of them, with devices as the engine without
  concurrency leaves them, or within one, with devices on their way there.
-/

import HomeAutomation.Proofs.Engine.Rehearsal
import HomeAutomation.Proofs.Engine.Turns

namespace HomeAutomation

variable {σ δ : Type}

namespace Activity

-- ============================================================================
-- How far the dispatches have come
-- ============================================================================

variable {backend : Backend σ} {activity next : Activity σ} {self base : Nat}

/-- Dispatches that have returned, from a number on. -/
def Returned (activity : Activity σ) (base : Nat)
    (done : List (Except DispatchError (List ActionOutcome))) : Prop :=
  ∀ (i : Nat) (result : Except DispatchError (List ActionOutcome)), done[i]? = some result →
    activity.dispatchResult? (base + i) = some result

/-- All runs have ended. -/
def RunsOver (activity : Activity σ) : Prop :=
  ∀ (id : Nat) (run : Run), activity.tasks[id]? = some (.run run) → run.result? ≠ none

variable {done : List (Except DispatchError (List ActionOutcome))}

theorem Returned.advance (returned : activity.Returned base done)
    (h : activity.Advances backend self next) (inside : activity.PausesInside) :
    next.Returned base done :=
  fun i result hi => h.dispatchResult?_eq inside (returned i result hi)

theorem Returned.snoc {result : Except DispatchError (List ActionOutcome)}
    (returned : activity.Returned base done)
    (last : activity.dispatchResult? (base + done.length) = some result) :
    activity.Returned base (done ++ [result]) := by
  intro i found hi
  rcases Nat.lt_or_ge i done.length with hlt | hge
  · rw [List.getElem?_append_left hlt] at hi
    exact returned i found hi
  · rw [List.getElem?_append_right hge] at hi
    have hlt := (List.getElem?_eq_some_iff.1 hi).1
    rw [List.length_singleton] at hlt
    obtain rfl : i = done.length := by omega
    rw [Nat.sub_self] at hi
    obtain rfl : result = found := Option.some.inj hi
    exact last

theorem dispatchResult?_of_set {old : Task} {snapshot : Json}
    {result : Except DispatchError (List ActionOutcome)} (task : activity.tasks[self]? = some old)
    (tasks : next.tasks = activity.tasks.set self (.dispatch ⟨snapshot, .finished result⟩)) :
    next.dispatchResult? self = some result := by
  rw [dispatchResult?, tasks, getElem?_set_task task, if_pos rfl]

/-- If all runs are over, nobody will ask for the lock of a device. -/
theorem RunsOver.findIdxs_eq_nil (isOver : activity.RunsOver) (directory : Directory) (d : String) :
    activity.tasks.findIdxs (Task.isBound directory d) = [] := by
  refine List.findIdxs_eq_nil_iff.2 fun task hmem => ?_
  obtain ⟨id, found⟩ := List.mem_iff_getElem?.1 hmem
  cases task with
  | dispatch => rfl
  | run run =>
    obtain ⟨result, hresult⟩ := Option.ne_none_iff_exists'.1 (isOver id run found)
    exact Task.isBound_of_not_ready (Run.isReady_of_finished (Run.phase_of_result? hresult))

/-- Nor does anybody stand in line for it. -/
theorem RunsOver.line_eq_nil (isOver : activity.RunsOver) (kept : activity.LocksKept) (d : String) :
    (activity.locks.lock d).line = [] := by
  refine (kept d).line_eq_nil fun id claim => ?_
  obtain ⟨task, found, claim⟩ := Option.bind_eq_some_iff.1 claim
  cases task with
  | dispatch => cases claim
  | run run =>
    obtain ⟨target, ht, -⟩ := Option.map_eq_some_iff.1 claim
    obtain ⟨result, hresult⟩ := Option.ne_none_iff_exists'.1 (isOver id run found)
    rw [Run.target?, Run.phase_of_result? hresult] at ht
    cases ht

theorem RunsOver.dispatch (isOver : activity.RunsOver) {old new : Dispatch}
    (task : activity.tasks[self]? = some (.dispatch old))
    (tasks : next.tasks = activity.tasks.set self (.dispatch new)) : next.RunsOver := by
  intro id run found
  rw [tasks, getElem?_set_task task] at found
  split at found
  · cases found
  · exact isOver id run found

-- ============================================================================
-- Stages
-- ============================================================================

section Stages

variable {behavior : DeviceBehavior δ} {savePauses : Nat → Nat}
  {activity next : Activity (Devices δ)} {last : Engine (Devices δ)}
  {results : List (Except DispatchError (List ActionOutcome))}

/-- How far the dispatches have come on the way to what the engine without concurrency gives. -/
inductive Stage (behavior : DeviceBehavior δ) (savePauses : Nat → Nat) (base : Nat)
    (last : Engine (Devices δ)) (results : List (Except DispatchError (List ActionOutcome)))
    (activity : Activity (Devices δ)) : Prop
  /-- The dispatches that have returned have left `sequential`, and no other is open. -/
  | between {done rest : List (Except DispatchError (List ActionOutcome))} {todo : List Json}
      {sequential : Engine (Devices δ)}
      (ahead : Sequential.dispatchAll (behavior.backend savePauses) sequential todo = (last, rest))
      (split : results = done ++ rest) (returned : activity.Returned base done)
      (turns : activity.turns = List.range' (base + done.length) todo.length)
      (awaiting : activity.Awaiting (base + done.length) todo) (isOver : activity.RunsOver)
      (alike : activity.engine.Alike sequential)
      (cells : activity.engine.cell = sequential.cell)
  /-- One more dispatch is open and will leave `sequential`. -/
  | within {done rest : List (Except DispatchError (List ActionOutcome))} {todo : List Json}
      {sequential : Engine (Devices δ)} {snapshot : Json} {slots : List Slot}
      {foretold : Nat → Except ExecuteError ExecuteResult} {outcomes : List ActionOutcome}
      (ahead : Sequential.dispatchAll (behavior.backend savePauses) sequential todo = (last, rest))
      (split : results = done ++ .ok outcomes :: rest) (returned : activity.Returned base done)
      (turns : activity.turns = List.range' (base + done.length) (todo.length + 1))
      (awaiting : activity.Awaiting (base + done.length + 1) todo)
      (gathering : activity.tasks[base + done.length]?
        = some (.dispatch ⟨snapshot, .gathering slots⟩))
      (forecast : activity.Forecast behavior slots foretold sequential.cell)
      (reports : outcomes = slots.map fun slot => slot.notice.outcome (slot.run.map foretold))
      (alike : activity.engine.Alike sequential)

/-- Runs that have ended as foretold give the outcomes that were foretold. -/
theorem outcomes_of_settled {slots : List Slot}
    {foretold : Nat → Except ExecuteError ExecuteResult}
    (settled : ∀ slot ∈ slots, ∀ id, slot.run = some id → ∃ run,
      activity.tasks[id]? = some (.run run) ∧ ∀ result, run.result? = some result →
        result = foretold id) {outcomes : List ActionOutcome}
    (known : activity.outcomes? slots = some outcomes) :
    outcomes = (slots.map fun slot => slot.notice.outcome (slot.run.map foretold)) ∧
      ∀ slot ∈ slots, ∀ id, slot.run = some id → activity.runResult? id ≠ none := by
  induction slots generalizing outcomes with
  | nil => exact ⟨(Option.some.inj known).symm, by simp⟩
  | cons slot slots ih =>
    obtain ⟨outcome, others, here, there, rfl⟩ := outcomes?_cons.1 known
    obtain ⟨rfl, ended⟩ := ih (fun slot hslot => settled slot (List.mem_cons_of_mem _ hslot)) there
    unfold outcome? at here
    split at here
    · rename_i hrun
      refine ⟨by rw [← Option.some.inj here, List.map_cons, hrun]; rfl,
        fun other hother id hid => ?_⟩
      rcases List.mem_cons.1 hother with rfl | hother
      · cases hrun.symm.trans hid
      · exact ended other hother id hid
    · rename_i id hrun
      obtain ⟨run, task, ends⟩ := settled slot List.mem_cons_self id hrun
      obtain ⟨result, isOver, rfl⟩ := Option.map_eq_some_iff.1 here
      have same : result = foretold id := ends result (by simpa [runResult?, task] using isOver)
      refine ⟨by rw [List.map_cons, hrun, same]; rfl, fun other hother id' hid => ?_⟩
      rcases List.mem_cons.1 hother with rfl | hother
      · obtain rfl : id = id' := Option.some.inj (hrun.symm.trans hid)
        rw [isOver]
        simp
      · exact ended other hother id' hid

/-- The outcomes that a dispatch gathers are those that were foretold, and all runs are over. -/
theorem Forecast.gathered {slots : List Slot}
    {foretold : Nat → Except ExecuteError ExecuteResult} {cells : String → Cell δ}
    (forecast : activity.Forecast behavior slots foretold cells) {outcomes : List ActionOutcome}
    (known : activity.outcomes? slots = some outcomes) :
    outcomes = (slots.map fun slot => slot.notice.outcome (slot.run.map foretold)) ∧
      activity.RunsOver := by
  obtain ⟨reports, ended⟩ := outcomes_of_settled forecast.settled known
  refine ⟨reports, fun id run task working => ?_⟩
  obtain ⟨slot, hslot, hid⟩ := forecast.covered task working
  exact ended slot hslot id hid (by simpa [runResult?, task] using working)

/-- A fan-out begins as it was rehearsed. -/
theorem Rehearsed.forecast {slots : List Slot} {runs : List Run}
    {foretold : Nat → Except ExecuteError ExecuteResult} {before after : Engine (Devices δ)}
    {outcomes : List ActionOutcome} {book : RuleBook} {parent : Option Nat} {notices : List Notice}
    {old new : Dispatch}
    (rehearsed : Rehearsed behavior next activity.tasks.length runs slots foretold before after
      outcomes)
    (isOver : activity.RunsOver) (kept : activity.LocksKept)
    (fans : slotsOf book false parent activity.tasks.length notices = (slots, runs))
    (task : activity.tasks[self]? = some (.dispatch old))
    (tasks : next.tasks = activity.tasks.set self (.dispatch new) ++ runs.map .run)
    (locks : next.locks = activity.locks) (cells : next.engine.cell = before.cell) :
    next.Forecast behavior slots foretold after.cell := by
  have length : (activity.tasks.set self (.dispatch new)).length = activity.tasks.length :=
    List.length_set
  have olds : RunsOver { activity with tasks := activity.tasks.set self (.dispatch new) } :=
    isOver.dispatch task rfl
  have fresh {i : Nat} : next.tasks[activity.tasks.length + i]? = (runs[i]?).map Task.run := by
    rw [tasks, List.getElem?_append_right (by omega), length, Nat.add_sub_cancel_left,
      List.getElem?_map]
  have young {id : Nat} {run : Run} (found : next.tasks[id]? = some (.run run))
      (working : run.result? = none) : ∃ i, id = activity.tasks.length + i ∧
        runs[i]? = some run := by
    rcases Nat.lt_or_ge id activity.tasks.length with hid | hid
    · rw [tasks, List.getElem?_append_left (by omega)] at found
      exact absurd working (olds id run found)
    · obtain ⟨i, rfl⟩ := Nat.exists_eq_add_of_le hid
      rw [fresh] at found
      obtain ⟨r, hr, hrun⟩ := Option.map_eq_some_iff.1 found
      exact ⟨i, rfl, Task.run.inj hrun ▸ hr⟩
  obtain ⟨within, covered⟩ := slotsOf_numbers fans
  refine ⟨fun d => ?_, fun {id run e} found working unknown => ?_, fun {id run} found working => ?_,
    fun slot hslot id hid => ?_⟩
  · have lineup : next.lineup d = (runs.map Task.run).findIdxs
        (Task.isBound next.engine.directory d) activity.tasks.length := by
      have nobody := olds.findIdxs_eq_nil next.engine.directory d
      rw [lineup, Lock.turns, locks, isOver.line_eq_nil kept, tasks, List.findIdxs_append, nobody,
        length, Nat.zero_add]
      rfl
    rw [lineup, cells]
    exact rehearsed.plays d
  · obtain ⟨i, rfl, hi⟩ := young found working
    exact rehearsed.unmapped hi unknown
  · obtain ⟨i, rfl, hi⟩ := young found working
    exact covered i (List.getElem?_eq_some_iff.1 hi).1
  · obtain ⟨hge, hlt⟩ := within slot hslot id hid
    obtain ⟨i, rfl⟩ := Nat.exists_eq_add_of_le hge
    have hi : runs[i]? = some runs[i] := List.getElem?_eq_getElem (by omega)
    refine ⟨runs[i], by rw [fresh, hi]; rfl, fun result ended => ?_⟩
    obtain ⟨id, a, -, made⟩ := mem_slotsOf_runs (by rw [fans]; exact List.mem_of_getElem? hi)
    rw [made] at ended
    cases ended

/-- A dispatch joins the line in any stage. -/
theorem Stage.queue (stage : Stage behavior savePauses base last results activity)
    (inside : activity.PausesInside) {snapshot : Json}
    (h : activity.TimelyStep (behavior.backend savePauses) self
      { activity.put self (.dispatch ⟨snapshot, .queued⟩) with
        snapshotLock := activity.snapshotLock.acquire self })
    (task : activity.tasks[self]? = some (.dispatch ⟨snapshot, .ready⟩)) :
    Stage behavior savePauses base last results
      { activity.put self (.dispatch ⟨snapshot, .queued⟩) with
        snapshotLock := activity.snapshotLock.acquire self } := by
  have advances := h.step.advances
  cases stage with
  | between ahead split returned turns awaiting isOver alike cells =>
    obtain ⟨turns', awaiting'⟩ := Between.queue ⟨turns, awaiting⟩ h task rfl rfl
    exact .between ahead split (returned.advance advances inside) turns' awaiting'
      (isOver.dispatch task rfl) alike cells
  | within ahead split returned turns awaiting gathering forecast reports alike =>
    obtain ⟨turns', awaiting', gathering'⟩ :=
      Within.queue ⟨turns, awaiting, gathering⟩ h task rfl rfl
    exact .within ahead split (returned.advance advances inside) turns' awaiting' gathering'
      (forecast.dispatch task rfl rfl rfl) reports alike

/-- The numbers go on after a result. -/
theorem length_snoc (base : Nat) (done : List (Except DispatchError (List ActionOutcome)))
    (result : Except DispatchError (List ActionOutcome)) :
    base + (done ++ [result]).length = base + done.length + 1 := by
  rw [List.length_append]
  rfl

/-- A snapshot that cannot be applied ends its turn at once, as without concurrency. -/
theorem Stage.refuse (stage : Stage behavior savePauses base last results activity)
    (inside : activity.PausesInside) {snapshot : Json} {engine : Engine (Devices δ)}
    {e : DispatchError}
    (task : activity.tasks[self]? = some (.dispatch ⟨snapshot, .queued⟩))
    (held : activity.snapshotLock.heldBy self = true)
    (observes : activity.engine.observe snapshot = (engine, .error e)) :
    Stage behavior savePauses base last results
      { activity.put self (.dispatch ⟨snapshot, .finished (.error e)⟩) with
        engine, snapshotLock := activity.snapshotLock.release } := by
  have advances : activity.Advances (behavior.backend savePauses) self
      { activity.put self (.dispatch ⟨snapshot, .finished (.error e)⟩) with
        engine, snapshotLock := activity.snapshotLock.release } := .refuse task held observes
  cases stage with
  | between ahead split returned turns awaiting isOver alike cells =>
    obtain ⟨rfl, rest, rfl, turns', awaiting'⟩ :=
      Between.refuse ⟨turns, awaiting⟩ advances task held rfl rfl
    obtain ⟨sequential', observes', alike'⟩ := alike.observe observes
    rw [Sequential.dispatchAll, Sequential.dispatch, observes'] at ahead
    obtain ⟨rfl, rfl⟩ := Prod.mk.inj ahead
    rw [← length_snoc] at turns' awaiting'
    exact .between rfl (by rw [split, List.append_assoc]; rfl)
      ((returned.advance advances inside).snoc (dispatchResult?_of_set task rfl)) turns' awaiting'
      (isOver.dispatch task rfl) alike'
      ((Engine.cell_observe observes).trans (cells.trans (Engine.cell_observe observes').symm))
  | within ahead split returned turns awaiting gathering forecast reports alike =>
    exact absurd task (Within.not_queued ⟨turns, awaiting, gathering⟩ held)

/-- A dispatch whose outcomes are known ends its turn, as without concurrency. -/
theorem Stage.gather (stage : Stage behavior savePauses base last results activity)
    (inside : activity.PausesInside) (kept : activity.LocksKept) (turnsKept : activity.TurnsKept)
    {snapshot : Json} {slots : List Slot} {outcomes : List ActionOutcome}
    (task : activity.tasks[self]? = some (.dispatch ⟨snapshot, .gathering slots⟩))
    (known : activity.outcomes? slots = some outcomes) :
    Stage behavior savePauses base last results
      { activity.put self (.dispatch ⟨snapshot, .finished (.ok outcomes)⟩) with
        snapshotLock := activity.snapshotLock.release } := by
  have advances : activity.Advances (behavior.backend savePauses) self
      { activity.put self (.dispatch ⟨snapshot, .finished (.ok outcomes)⟩) with
        snapshotLock := activity.snapshotLock.release } := .gather task known
  have head := head_of_gathering turnsKept task
  cases stage with
  | between ahead split returned turns awaiting isOver alike cells =>
    exact absurd task (Between.not_gathering ⟨turns, awaiting⟩ head)
  | within ahead split returned turns awaiting gathering forecast reports alike =>
    obtain ⟨rfl, rfl, turns', awaiting'⟩ :=
      Within.gather ⟨turns, awaiting, gathering⟩ advances head task rfl rfl
    obtain ⟨gathered, isOver⟩ := forecast.gathered known
    rw [← length_snoc _ _ (.ok outcomes)] at turns' awaiting'
    refine .between ahead ?_
      ((returned.advance advances inside).snoc (dispatchResult?_of_set task rfl)) turns' awaiting'
      (isOver.dispatch task rfl) alike (funext fun d => ?_)
    · rw [split, reports, ← gathered, List.append_assoc]
      rfl
    · -- nobody has a turn at the device any more
      have plays := forecast.plays d
      rw [lineup, Lock.turns, isOver.line_eq_nil kept, isOver.findIdxs_eq_nil] at plays
      exact plays.eq_of_nil

/-- A snapshot whose turn it is is applied and sets off its runs, as was rehearsed. -/
theorem Stage.spread (stage : Stage behavior savePauses base last results activity)
    (inside : activity.PausesInside) (kept : activity.LocksKept)
    (advances : activity.Advances (behavior.backend savePauses) self next) {snapshot : Json}
    {engine : Engine (Devices δ)} {events : List Nat} {slots : List Slot} {runs : List Run}
    (task : activity.tasks[self]? = some (.dispatch ⟨snapshot, .queued⟩))
    (held : activity.snapshotLock.heldBy self = true)
    (observes : activity.engine.observe snapshot = (engine, .ok events))
    (fans : slotsOf engine.book false (some self) activity.tasks.length (engine.notices events)
      = (slots, runs))
    (tasks : next.tasks = activity.tasks.set self (.dispatch ⟨snapshot, .gathering slots⟩)
      ++ runs.map .run)
    (applied : engine = next.engine) (locks : next.locks = activity.locks)
    (lock : next.snapshotLock = activity.snapshotLock) :
    Stage behavior savePauses base last results next := by
  subst applied
  cases stage with
  | between ahead split returned turns awaiting isOver alike cells =>
    obtain ⟨rfl, rest, rfl, turns', awaiting', gathering⟩ :=
      Between.spread ⟨turns, awaiting⟩ advances task held tasks lock
    obtain ⟨sequential', observes', alike'⟩ := alike.observe observes
    rw [Sequential.dispatchAll, Sequential.dispatch, observes'] at ahead
    obtain ⟨rfl, rfl⟩ := Prod.mk.inj ahead
    have cells' : next.engine.cell = sequential'.cell :=
      (Engine.cell_observe observes).trans (cells.trans (Engine.cell_observe observes').symm)
    obtain ⟨foretold, rehearsed⟩ : ∃ foretold, Rehearsed behavior next activity.tasks.length runs
        slots foretold sequential'
        (Sequential.actAll (behavior.backend savePauses) false sequential'
          (sequential'.notices events)).1
        (Sequential.actAll (behavior.backend savePauses) false sequential'
          (sequential'.notices events)).2 := by
      rw [alike'.notices]
      refine exists_rehearsed alike' fans fun i run hi => ?_
      rw [tasks, List.getElem?_append_right (by simp), List.length_set, Nat.add_sub_cancel_left,
        List.getElem?_map, hi]
      rfl
    exact .within rfl split (returned.advance advances inside) turns' awaiting' gathering
      (rehearsed.forecast isOver kept fans task tasks locks cells') rehearsed.reports
      rehearsed.alike
  | within ahead split returned turns awaiting gathering forecast reports alike =>
    exact absurd task (Within.not_queued ⟨turns, awaiting, gathering⟩ held)

/-- A step of a run comes as was foretold. -/
theorem Stage.run (stage : Stage behavior savePauses base last results activity)
    (inside : activity.PausesInside)
    (advances : activity.Advances (behavior.backend savePauses) self next)
    {run run' : Run} (task : activity.tasks[self]? = some (.run run))
    (tasks : next.tasks = activity.tasks.set self (.run run'))
    (lock : next.snapshotLock = activity.snapshotLock)
    (alike' : activity.engine.Alike next.engine)
    (foreseen : ∀ {slots : List Slot} {foretold : Nat → Except ExecuteError ExecuteResult}
      {cells : String → Cell δ}, activity.Forecast behavior slots foretold cells →
      next.Forecast behavior slots foretold cells) :
    Stage behavior savePauses base last results next := by
  cases stage with
  | between ahead split returned turns awaiting isOver alike cells =>
    obtain ⟨busy, own, working⟩ := advances.not_finished inside
    obtain rfl : .run run = busy := Option.some.inj (task.symm.trans own)
    exact absurd (by simpa [isFinished] using working) (isOver self run task)
  | within ahead split returned turns awaiting gathering forecast reports alike =>
    obtain ⟨turns', awaiting', gathering'⟩ :=
      Within.run ⟨turns, awaiting, gathering⟩ advances task tasks lock
    exact .within ahead split (returned.advance advances inside) turns' awaiting' gathering'
      (foreseen forecast) reports (alike'.symm.trans alike)

/-- Every step leads from stage to stage. -/
theorem Stage.step (stage : Stage behavior savePauses base last results activity)
    {initial : Engine (Devices δ)} {log : List Contact}
    (reached : Reached (behavior.backend savePauses) initial log activity)
    (h : activity.TimelyStep (behavior.backend savePauses) self next) :
    Stage behavior savePauses base last results next := by
  have inside := reached.pausesInside
  have kept := reached.locksKept
  have advances := h.step.advances
  cases id advances with
  | pause task busy =>
    exact stage.run inside advances task rfl rfl (.refl _) fun forecast => forecast.pause task
  | run task idle proceeds =>
    exact stage.run inside advances task rfl rfl (.of_proceeds proceeds) fun forecast =>
      forecast.proceed reached.assigned kept task proceeds
        (fun d => h.first_bound task) rfl rfl rfl
  | queue task => exact stage.queue inside h task
  | refuse task held observes => exact stage.refuse inside task held observes
  | spread task held observes fans =>
    exact stage.spread inside kept advances task held observes fans rfl rfl rfl rfl
  | gather task known => exact stage.gather inside kept reached.turnsKept task known

/-- Before any step, all dispatches wait. -/
theorem Reached.stage {initial : Engine (Devices δ)} {log : List Contact}
    {quiet : Activity (Devices δ)}
    (reached : Reached (behavior.backend savePauses) initial log quiet) (isOver : quiet.Quiet)
    (snapshots : List Json) :
    Stage behavior savePauses quiet.tasks.length
      (Sequential.dispatchAll (behavior.backend savePauses) quiet.engine snapshots).1
      (Sequential.dispatchAll (behavior.backend savePauses) quiet.engine snapshots).2
      (quiet.processAll snapshots) := by
  obtain ⟨turns, awaiting⟩ :=
    between_processAll (Quiet.turns_eq_nil isOver reached.turnsKept) snapshots
  have runs : RunsOver (quiet.processAll snapshots) := by
    intro id run found
    rw [processAll_eq] at found
    rcases Nat.lt_or_ge id quiet.tasks.length with hid | hid
    · rw [List.getElem?_append_left hid] at found
      have ended : run.result?.isSome = true := isOver _ (List.mem_of_getElem? found)
      exact Option.isSome_iff_ne_none.1 ended
    · rw [List.getElem?_append_right hid, List.getElem?_map] at found
      obtain ⟨snapshot, -, hsnapshot⟩ := Option.map_eq_some_iff.1 found
      cases hsnapshot
  have engine : (quiet.processAll snapshots).engine = quiet.engine := by rw [processAll_eq]
  exact .between rfl (List.nil_append _).symm (fun i result hi => by cases hi) turns awaiting runs
    (engine ▸ .refl _) (congrArg Engine.cell engine)

/-- When no task is under way any more, all dispatches have returned and left what those without
    concurrency leave. -/
theorem Stage.of_quiet (stage : Stage behavior savePauses base last results activity)
    (isOver : activity.Quiet) :
    activity.Returned base results ∧ activity.engine.Alike last ∧
      activity.engine.cell = last.cell := by
  cases stage with
  | @between done rest todo sequential ahead split returned turns awaiting ended alike cells =>
    cases todo with
    | nil =>
      obtain ⟨rfl, rfl⟩ := Prod.mk.inj ahead
      rw [split, List.append_nil]
      exact ⟨returned, alike, cells⟩
    | cons snapshot todo =>
      obtain ⟨⟨phase, found, unopened⟩, -⟩ := awaiting.uncons
      have := isOver _ (List.mem_of_getElem? found)
      rcases unopened with rfl | rfl <;> cases this
  | within ahead split returned turns awaiting gathering forecast reports alike =>
    cases isOver _ (List.mem_of_getElem? gathering)

end Stages

end Activity

end HomeAutomation
