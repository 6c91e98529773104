/-
  HomeAutomation.Proofs.Engine.View

  The engine seen through a view of what lies outside.  A backend may show, in
  part of its state, all that another one would do: then runs and dispatches
  over the one take the very steps that they take over the other, and whatever
  holds of all activities over the other holds of the views of those over the
  one.
-/

import HomeAutomation.Proofs.Engine.Lineup

namespace HomeAutomation

variable {σ τ : Type}

/-- As long as something holds of its state, a backend does what another one does, as far as a view
    of the state goes.  Whether a save succeeds is not looked at. -/
structure Backend.SeenAs (backend : Backend σ) (image : Backend τ) (view : σ → τ)
    (holds : σ → Prop) : Prop where
  startCall : ∀ call s, holds s →
    image.startCall call (view s)
        = (view (backend.startCall call s).1, (backend.startCall call s).2) ∧
      holds (backend.startCall call s).1
  read : ∀ target s, holds s →
    image.read target (view s) = (view (backend.read target s).1, (backend.read target s).2) ∧
      holds (backend.read target s).1
  command : ∀ target state s, holds s →
    image.command target state (view s)
        = (view (backend.command target state s).1, (backend.command target state s).2) ∧
      holds (backend.command target state s).1
  startSave : ∀ s, holds s →
    image.startSave (view s) = (view (backend.startSave s).1, (backend.startSave s).2) ∧
      holds (backend.startSave s).1
  save : ∀ deviceId state s, holds s →
    (image.save deviceId state (view s)).1 = view (backend.save deviceId state s).1 ∧
      holds (backend.save deviceId state s).1

-- ============================================================================
-- Views of the engine
-- ============================================================================

/-- The engine with a view of what lies outside. -/
def Engine.view (view : σ → τ) (engine : Engine σ) : Engine τ where
  directory := engine.directory
  range := engine.range
  book := engine.book
  records := engine.records
  outside := view engine.outside

def RunStep.view (view : σ → τ) (step : RunStep σ) : RunStep τ where
  engine := step.engine.view view
  locks := step.locks
  run := step.run
  woken := step.woken

namespace Backend.SeenAs

variable {backend : Backend σ} {image : Backend τ} {view : σ → τ} {holds : σ → Prop}
  {engine : Engine σ}

/-- The view of the engine with something else outside. -/
def withOutside (view : σ → τ) (engine : Engine σ) (outside : τ) : Engine τ :=
  { engine.view view with outside }

theorem engine_startCall (seen : backend.SeenAs image view holds) (h : holds engine.outside)
    (call : DeviceCall) :
    (engine.view view).startCall image call
        = ((engine.startCall backend call).1.view view, (engine.startCall backend call).2) ∧
      holds (engine.startCall backend call).1.outside := by
  obtain ⟨same, after⟩ := seen.startCall call _ h
  exact ⟨congrArg (Prod.map (withOutside view engine) id) same, after⟩

theorem engine_readState (seen : backend.SeenAs image view holds) (h : holds engine.outside)
    (target : DeviceTarget) :
    (engine.view view).readState image target
        = ((engine.readState backend target).1.view view, (engine.readState backend target).2) ∧
      holds (engine.readState backend target).1.outside := by
  obtain ⟨same, after⟩ := seen.read target _ h
  have engines : ((engine.view view).readState image target).1
      = (engine.readState backend target).1.view view :=
    congrArg (fun reply : τ × ReadReply => withOutside view engine reply.1) same
  have states : ((engine.view view).readState image target).2
      = (engine.readState backend target).2 := by
    rw [Engine.readState_eq, Engine.readState_eq]
    exact congrArg (fun reply : τ × ReadReply =>
      reply.2.stateBefore (engine.records.get? target.deviceId)) same
  exact ⟨Prod.ext engines states, after⟩

theorem engine_command (seen : backend.SeenAs image view holds) (h : holds engine.outside)
    (target : DeviceTarget) (state : DeviceState) :
    (engine.view view).command image target state
        = ((engine.command backend target state).1.view view,
          (engine.command backend target state).2) ∧
      holds (engine.command backend target state).1.outside := by
  obtain ⟨same, after⟩ := seen.command target state _ h
  exact ⟨congrArg (Prod.map (withOutside view engine) id) same, after⟩

theorem engine_startSave (seen : backend.SeenAs image view holds) (h : holds engine.outside) :
    (engine.view view).startSave image
        = ((engine.startSave backend).1.view view, (engine.startSave backend).2) ∧
      holds (engine.startSave backend).1.outside := by
  obtain ⟨same, after⟩ := seen.startSave _ h
  exact ⟨congrArg (Prod.map (withOutside view engine) id) same, after⟩

theorem engine_save (seen : backend.SeenAs image view holds) (h : holds engine.outside)
    (deviceId : String) (state : DeviceState) :
    (engine.view view).save image deviceId state = (engine.save backend deviceId state).view view ∧
      holds (engine.save backend deviceId state).outside := by
  obtain ⟨same, after⟩ := seen.save deviceId state _ h
  exact ⟨congrArg (withOutside view engine) same, after⟩

-- ============================================================================
-- Runs
-- ============================================================================

variable {locks : LockTable} {run : Run} {target : DeviceTarget}

theorem setPrevious_view (action : Nat) (state : Option DeviceState) :
    (engine.view view).setPrevious action state = (engine.setPrevious action state).view view := rfl

theorem record_view (deviceId : String) (state : DeviceState) :
    (engine.view view).record deviceId state = (engine.record deviceId state).view view := rfl

theorem finish_view (result : Except ExecuteError ExecuteResult) :
    run.finish (engine.view view) locks target result
      = (run.finish engine locks target result).view view := by
  unfold Run.finish
  cases result.toBool <;> rfl

theorem accept_view (seen : backend.SeenAs image view holds) (h : holds engine.outside)
    (state : DeviceState) (result : Except ExecuteError ExecuteResult) :
    run.accept image (engine.view view) locks target state result
      = (run.accept backend engine locks target state result).view view := by
  have recorded : holds (engine.record target.deviceId state).outside := h
  unfold Run.accept
  rw [record_view, (seen.engine_startSave recorded).1]
  rfl

theorem restore_view (seen : backend.SeenAs image view holds) (h : holds engine.outside)
    (failure : CallError) :
    run.restore image (engine.view view) locks target failure
      = (run.restore backend engine locks target failure).view view := by
  have book : (engine.view view).book = engine.book := rfl
  unfold Run.restore
  rw [book]
  cases engine.book.previous? run.action with
  | none => exact finish_view _
  | some state =>
    dsimp only
    rw [(seen.engine_startCall h _).1]
    rfl

/-- A run takes the step that its view takes. -/
theorem proceed_view (seen : backend.SeenAs image view holds) (h : holds engine.outside)
    (self : Nat) :
    run.proceed image self (engine.view view) locks
      = (run.proceed backend self engine locks).map (RunStep.view view) := by
  unfold Run.proceed
  have directory : (engine.view view).directory = engine.directory := rfl
  cases run.phase with
  | ready =>
    dsimp only
    rw [directory]
    cases engine.directory.resolve run.location run.kind.name <;> rfl
  | queued target =>
    have needed : (engine.view view).isChangeNeeded target.deviceId run.desired
        = engine.isChangeNeeded target.deviceId run.desired := rfl
    dsimp only
    rw [needed]
    split
    · split
      · rw [(seen.engine_startCall h _).1]
        rfl
      · rfl
    · rfl
  | reading target =>
    obtain ⟨read, after⟩ := seen.engine_readState h target
    dsimp only
    rw [read]
    have noted : holds ((engine.readState backend target).1.setPrevious run.action
        (engine.readState backend target).2).outside := after
    rw [setPrevious_view, (seen.engine_startCall noted _).1]
    rfl
  | commanding target =>
    obtain ⟨commanded, after⟩ := seen.engine_command h target run.desired
    dsimp only
    rw [commanded]
    dsimp only
    split
    · rw [seen.accept_view after]
      rfl
    · rw [seen.restore_view after]
      rfl
  | restoring target failure state =>
    obtain ⟨commanded, after⟩ := seen.engine_command h target state
    dsimp only
    rw [commanded]
    dsimp only
    split
    · rw [seen.accept_view after]
      rfl
    · rw [finish_view]
      rfl
  | saving target state result =>
    dsimp only
    rw [(seen.engine_save h _ _).1, finish_view]
    rfl
  | finished result => rfl

/-- What holds outside holds after a step of a run. -/
theorem proceeds (seen : backend.SeenAs image view holds) (h : holds engine.outside) {self : Nat}
    {step : RunStep σ} (proceeds : run.Proceeds backend self engine locks step) :
    holds step.engine.outside := by
  cases proceeds with
  | unmapped | ask | skip => exact h
  | begin => exact (seen.engine_startCall h _).2
  | @read target =>
    have read := (seen.engine_readState h target).2
    exact (seen.startCall _ _ read).2
  | @accept target | @restored target failure state =>
    refine (seen.startSave _ ?_).2
    exact (seen.engine_command h target _).2
  | @abandon target | @unrestored target failure state =>
    rw [Run.close, Run.leave, Run.outside_settle]
    exact (seen.engine_command h target _).2
  | @restore target =>
    have commanded := (seen.engine_command h target run.desired).2
    exact (seen.engine_startCall commanded _).2
  | save =>
    rw [Run.close, Run.leave, Run.outside_settle]
    exact (seen.engine_save h _ _).2

end Backend.SeenAs

-- ============================================================================
-- Views of activities
-- ============================================================================

namespace Activity

/-- An activity with a view of what lies outside. -/
def view (view : σ → τ) (activity : Activity σ) : Activity τ where
  engine := activity.engine.view view
  locks := activity.locks
  snapshotLock := activity.snapshotLock
  tasks := activity.tasks

theorem submit_view (view : σ → τ) (activity : Activity σ) (request : Request) :
    (activity.submit request).view view = (activity.view view).submit request := rfl

variable {backend : Backend σ} {image : Backend τ} {view : σ → τ} {holds : σ → Prop}
  {activity next : Activity σ} {self : Nat}

/-- What a step does to the view. -/
def stepView (view : σ → τ) (step : ActivityStep σ) : ActivityStep τ where
  next := step.next.view view
  pauses := step.pauses
  woken := step.woken

theorem observe_view (view : σ → τ) (engine : Engine σ) (snapshot : Json) :
    (engine.view view).observe snapshot
      = ((engine.observe snapshot).1.view view, (engine.observe snapshot).2) := by
  unfold Engine.observe
  cases Snapshot.readings snapshot <;> rfl

theorem openDispatch_view (view : σ → τ) (activity : Activity σ) (self : Nat) (snapshot : Json) :
    (activity.view view).openDispatch self snapshot
      = stepView view (activity.openDispatch self snapshot) := by
  have observed : (activity.view view).engine.observe snapshot = _ :=
    observe_view view activity.engine snapshot
  unfold openDispatch
  rw [observed]
  dsimp only
  cases (activity.engine.observe snapshot).2 <;> rfl

theorem advance_view (seen : backend.SeenAs image view holds) (h : holds activity.engine.outside)
    (self : Nat) :
    (activity.view view).advance image self
      = (activity.advance backend self).map (stepView view) := by
  have tasks : (activity.view view).tasks = activity.tasks := rfl
  unfold advance
  rw [tasks]
  cases activity.tasks[self]? with
  | none => rfl
  | some task =>
    cases task with
    | run run =>
      dsimp only
      unfold advanceRun
      cases run.pauses with
      | succ pauses => rfl
      | zero =>
        have proceeds : run.proceed image self (activity.view view).engine
            (activity.view view).locks = _ := seen.proceed_view h self
        dsimp only
        rw [proceeds, Option.map_map, Option.map_map]
        rfl
    | dispatch dispatch =>
      obtain ⟨snapshot, phase⟩ := dispatch
      cases phase with
      | ready => rfl
      | queued =>
        have lock : (activity.view view).snapshotLock = activity.snapshotLock := rfl
        dsimp only [advanceDispatch]
        rw [lock, openDispatch_view]
        split <;> rfl
      | gathering slots =>
        have outcomes : (activity.view view).outcomes? slots = activity.outcomes? slots := rfl
        dsimp only [advanceDispatch]
        rw [outcomes, Option.map_map]
        rfl
      | finished result => rfl

/-- What holds outside holds after a step. -/
theorem Step.holds_after (step : activity.Step backend self next)
    (seen : backend.SeenAs image view holds)
    (h : holds activity.engine.outside) : holds next.engine.outside := by
  cases step.advances with
  | pause | queue | gather => exact h
  | run task idle proceeds => exact seen.proceeds h proceeds
  | refuse task held observes | spread task held observes fans =>
    have same := Engine.outside_observe observes
    dsimp only
    rw [same]
    exact h

/-- A task takes the step that it takes in the view. -/
theorem step_view_iff (seen : backend.SeenAs image view holds) (h : holds activity.engine.outside)
    {shown : Activity τ} :
    (activity.view view).Step image self shown
      ↔ ∃ next, activity.Step backend self next ∧ next.view view = shown := by
  unfold Step
  rw [advance_view seen h, Option.map_map]
  cases activity.advance backend self with
  | none => simp
  | some step =>
    constructor
    · intro same
      exact ⟨step.next, rfl, Option.some.inj same⟩
    · rintro ⟨next, same, rfl⟩
      obtain rfl : step.next = next := Option.some.inj same
      rfl

theorem TimelyStep.seenAs (step : activity.TimelyStep backend self next)
    (seen : backend.SeenAs image view holds) (h : holds activity.engine.outside) :
    (activity.view view).TimelyStep image self (next.view view) :=
  ⟨(step_view_iff seen h).2 ⟨next, step.step, rfl⟩, step.dispatches, step.runs⟩

/-- Timely steps are timely steps of the view. -/
theorem TimelySteps.seenAs (steps : activity.TimelySteps backend next)
    (seen : backend.SeenAs image view holds) (h : holds activity.engine.outside) :
    (activity.view view).TimelySteps image (next.view view) ∧ holds next.engine.outside := by
  induction steps with
  | refl => exact ⟨.refl, h⟩
  | tail _ step ih => exact ⟨ih.1.tail (step.seenAs seen ih.2), step.step.holds_after seen ih.2⟩

/-- Timely steps of the view are timely steps. -/
theorem exists_of_view {shown : Activity τ} (steps : (activity.view view).TimelySteps image shown)
    (seen : backend.SeenAs image view holds) (h : holds activity.engine.outside) :
    ∃ next, activity.TimelySteps backend next ∧ next.view view = shown := by
  generalize start : activity.view view = first at steps
  induction steps with
  | refl => exact ⟨activity, .refl, start⟩
  | tail _ step ih =>
    obtain ⟨middle, steps, rfl⟩ := ih
    obtain ⟨next, taken, rfl⟩ := (step_view_iff seen (steps.seenAs seen h).2).1 step.step
    exact ⟨next, steps.tail ⟨taken, step.dispatches, step.runs⟩, rfl⟩

end Activity

end HomeAutomation
