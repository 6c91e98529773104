/-
  HomeAutomation.Proofs.Engine.Result

  What executions end with, and what the log has to show for it.  An execution
  fails for one of two reasons only: there is no device for it, or the device
  did not accept its own command.  In particular it makes no difference to a
  result whether a state was saved.

  `Run.Accounted` is read off the phase of a run, `Run.Proceeds.accounted` is its
  step lemma, and `Activity.Reached.earned` is what a whole run keeps.
-/

import HomeAutomation.Proofs.Engine.SingleDispatch

namespace HomeAutomation

variable {σ : Type}

-- ============================================================================
-- Accounts of runs
-- ============================================================================

namespace Run

/-- The results of a run that has commanded its device. -/
inductive Commanded (log : List Contact) (id : Nat) (run : Run) :
    Except ExecuteError ExecuteResult → Prop
  | changed {target : DeviceTarget} {reply : CommandReply}
      (told : ⟨id, target.deviceId, .command run.desired reply⟩ ∈ log)
      (accepted : reply.isAccepted = true) :
      Commanded log id run (.ok (.changed target run.kind run.location run.desired))
  | refused {target : DeviceTarget} {reply : CommandReply} {failure : CallError}
      {outcome : RollbackOutcome} (told : ⟨id, target.deviceId, .command run.desired reply⟩ ∈ log)
      (failed : reply.failure? target.deviceId = some failure) :
      Commanded log id run (.error (.call { failure with rollback := some outcome }))

/-- The results of a run. -/
inductive Earned (directory : Directory) (log : List Contact) (id : Nat) (run : Run) :
    Except ExecuteError ExecuteResult → Prop
  | unmapped {e : DeviceNotFound}
      (unknown : directory.resolve run.location run.kind.name = .error e) :
      Earned directory log id run (.error (.notFound e))
  | unchanged {deviceId : String} (told : ⟨id, deviceId, .skipped⟩ ∈ log)
      (unforced : run.force = false) :
      Earned directory log id run (.ok (.unchanged deviceId run.desired))
  | commanded {result : Except ExecuteError ExecuteResult}
      (commanded : run.Commanded log id result) : Earned directory log id run result

/-- What the log has to show for a run, as far as it has come. -/
def Accounted (directory : Directory) (log : List Contact) (id : Nat) (run : Run) : Prop :=
  match run.phase with
  | .restoring target failure _ => ∃ reply : CommandReply,
      ⟨id, target.deviceId, .command run.desired reply⟩ ∈ log ∧
        reply.failure? target.deviceId = some failure
  | .saving _ _ result => run.Commanded log id result
  | .finished result => run.Earned directory log id result
  | _ => True

section Accounts

variable {directory : Directory} {log more : List Contact} {id : Nat} {run run' : Run}
  {result : Except ExecuteError ExecuteResult}

/-- A run that has commanded its device does not report that it left it alone. -/
theorem Commanded.noChange_eq {r : ExecuteResult} (h : run.Commanded log id (.ok r)) :
    r.noChange = false := by
  cases h
  rfl

theorem fields_of_unbegun (same : run'.unbegun = run.unbegun) :
    run'.desired = run.desired ∧ run'.kind = run.kind ∧ run'.location = run.location ∧
      run'.force = run.force := by
  simp only [unbegun, enter, Run.mk.injEq] at same
  obtain ⟨-, kind, location, desired, force, -⟩ := same
  exact ⟨desired, kind, location, force⟩

/-- How far the run has come is no part of what a result says. -/
theorem Commanded.congr (h : run.Commanded log id result) (same : run'.unbegun = run.unbegun) :
    run'.Commanded (log ++ more) id result := by
  obtain ⟨desired, kind, location, -⟩ := fields_of_unbegun same
  cases h with
  | changed told accepted =>
    rw [← desired, ← kind, ← location] at *
    exact .changed (List.mem_append_left _ told) accepted
  | refused told failed =>
    rw [← desired] at told
    exact .refused (List.mem_append_left _ told) failed

theorem Earned.congr (h : run.Earned directory log id result)
    (same : run'.unbegun = run.unbegun) : run'.Earned directory (log ++ more) id result := by
  obtain ⟨desired, kind, location, force⟩ := fields_of_unbegun same
  cases h with
  | unmapped unknown => exact .unmapped (by rw [kind, location]; exact unknown)
  | unchanged told unforced =>
    rw [← desired]
    exact .unchanged (List.mem_append_left _ told) (force.trans unforced)
  | commanded commanded => exact .commanded (commanded.congr same)

theorem Accounted.congr (h : run.Accounted directory log id)
    (same : run'.unbegun = run.unbegun) (phase : run'.phase = run.phase) :
    run'.Accounted directory (log ++ more) id := by
  obtain ⟨desired, -⟩ := fields_of_unbegun same
  unfold Accounted at h ⊢
  rw [phase]
  cases hp : run.phase with
  | restoring =>
    simp only [hp] at h ⊢
    obtain ⟨reply, told, failed⟩ := h
    exact ⟨reply, List.mem_append_left _ (desired ▸ told), failed⟩
  | saving =>
    simp only [hp] at h ⊢
    exact h.congr same
  | finished =>
    simp only [hp] at h ⊢
    exact h.congr same
  | _ => trivial

end Accounts

variable {backend : Backend σ} {self : Nat} {engine : Engine σ} {locks : LockTable} {run : Run}
  {step : RunStep σ} {log : List Contact}

/-- A step of a run keeps its account. -/
theorem Proceeds.accounted (h : run.Proceeds backend self engine locks step)
    (before : run.Accounted engine.directory log self) :
    step.run.Accounted engine.directory
      (log ++ (run.contact? backend self engine locks).toList) self := by
  have told {contact : Contact} (hc : run.contact? backend self engine locks = some contact) :
      contact ∈ log ++ (run.contact? backend self engine locks).toList := by simp [hc]
  cases h with
  | unmapped phase unknown => exact .unmapped unknown
  | ask | begin | read => trivial
  | skip phase held needless =>
    refine .unchanged (told (by simp [contact?, phase, held, needless])) ?_
    exact (Bool.or_eq_false_iff.1 needless).1
  | accept phase accepted =>
    exact .changed (told (by simp only [contact?, phase]; rfl))
      (CommandReply.failure?_eq_none_iff.1 accepted)
  | abandon phase failed =>
    exact .commanded (.refused (told (by simp only [contact?, phase]; rfl)) failed)
  | restore phase failed => exact ⟨_, told (by simp only [contact?, phase]; rfl), failed⟩
  | restored phase =>
    simp only [Accounted, phase] at before
    obtain ⟨reply, told, failed⟩ := before
    exact .refused (List.mem_append_left _ told) failed
  | unrestored phase =>
    simp only [Accounted, phase] at before
    obtain ⟨reply, told, failed⟩ := before
    exact .commanded (.refused (List.mem_append_left _ told) failed)
  | save phase =>
    simp only [Accounted, phase] at before
    exact .commanded (before.congr rfl)

end Run

-- ============================================================================
-- Where runs come from
-- ============================================================================

namespace Activity

variable {backend : Backend σ} {activity next : Activity σ} {self : Nat}

/-- Where a run is found after a step of a task: it was there before, its call has suspended once
    more, it is the one that has taken the step, or it has just been made. -/
inductive Origin (backend : Backend σ) (activity : Activity σ) (self id : Nat) : Run → Prop
  | stays {run : Run} (task : activity.tasks[id]? = some (.run run)) :
      Origin backend activity self id run
  | waits {run : Run} {pauses : Nat} (task : activity.tasks[id]? = some (.run run)) :
      Origin backend activity self id { run with pauses }
  | proceeds {run : Run} {step : RunStep σ} (own : id = self)
      (task : activity.tasks[id]? = some (.run run)) (idle : run.pauses = 0)
      (proceeds : run.Proceeds backend self activity.engine activity.locks step) :
      Origin backend activity self id step.run
  | made {run : Run} (ready : run.phase = .ready) : Origin backend activity self id run

theorem Advances.origin (h : activity.Advances backend self next) {id : Nat} {run : Run}
    (task : next.tasks[id]? = some (.run run)) : Origin backend activity self id run := by
  have elsewhere {old : Task} {new : Dispatch} (own : activity.tasks[self]? = some old)
      (task : (activity.tasks.set self (.dispatch new))[id]? = some (.run run)) :
      Origin backend activity self id run := by
    rw [getElem?_set_task own] at task
    split at task
    · cases task
    · exact .stays task
  cases h with
  | @pause waiting pauses own busy =>
    rw [put, getElem?_set_task own] at task
    split at task
    · rename_i hid
      cases task
      exact .waits (hid ▸ own)
    · exact .stays task
  | @run moving step own idle proceeds =>
    simp only [put, getElem?_set_task own] at task
    split at task
    · rename_i hid
      cases task
      exact .proceeds hid (hid ▸ own) idle proceeds
    · exact .stays task
  | queue own | refuse own | gather own => exact elsewhere own task
  | @spread snapshot engine events slots runs own held observes fans =>
    simp only [List.getElem?_append] at task
    split at task
    · exact elsewhere own task
    · have fresh : run ∈ runs := by simpa using List.mem_of_getElem? task
      obtain ⟨action, a, -, rfl⟩ := mem_slotsOf_runs (by rw [fans]; exact fresh)
      exact .made rfl

/-- A request leaves the runs alone and may make one. -/
theorem run_submit {request : Request} {id : Nat} {run : Run}
    (task : (activity.submit request).tasks[id]? = some (.run run)) :
    activity.tasks[id]? = some (.run run) ∨ run.phase = .ready := by
  simp only [submit, List.getElem?_append] at task
  split at task
  · exact .inl task
  · have fresh := List.mem_of_getElem? task
    cases request with
    | execute action force =>
      obtain ⟨a, -, rfl⟩ : ∃ a, activity.engine.book.action? action = some a ∧
          Run.ofAction action a force none = run := by simpa [Request.task?] using fresh
      exact .inr rfl
    | _ => simp [Request.task?] at fresh

/-- No step changes the home. -/
theorem Advances.directory_eq (h : activity.Advances backend self next) :
    next.engine.directory = activity.engine.directory := by
  cases h with
  | run task idle proceeds => exact proceeds.directory_eq
  | refuse task held observes | spread task held observes =>
    exact Engine.directory_observe observes
  | pause | queue | gather => rfl

-- ============================================================================
-- Reached activities
-- ============================================================================

namespace Reached

variable {initial : Engine σ} {log : List Contact}

theorem directory_eq (reached : Reached backend initial log activity) :
    activity.engine.directory = initial.directory := by
  induction reached with
  | start => rfl
  | submit request _ ih => exact ih
  | advance _ step ih => exact step.advances.directory_eq.trans ih

theorem accounted (reached : Reached backend initial log activity) {id : Nat} {run : Run}
    (task : activity.tasks[id]? = some (.run run)) :
    run.Accounted initial.directory log id := by
  have unbegun {log : List Contact} {run : Run} (ready : run.phase = .ready) :
      run.Accounted initial.directory log id := by simp [Run.Accounted, ready]
  induction reached generalizing run with
  | start => simp at task
  | submit request _ ih => exact (run_submit task).elim ih unbegun
  | advance reached step ih =>
    cases step.advances.origin task with
    | stays old => exact (ih old).congr rfl rfl
    | waits old => exact (ih old).congr rfl rfl
    | made ready => exact unbegun ready
    | proceeds own old idle proceeds =>
      subst own
      rw [contacts_run old idle, ← reached.directory_eq]
      exact proceeds.accounted (reached.directory_eq ▸ ih old)

/-- The result of every execution is earned: it reports that the device was left alone, that the
    device accepted the command, that it did not, or that there is none. -/
theorem earned (reached : Reached backend initial log activity) {id : Nat}
    {result : Except ExecuteError ExecuteResult} (ended : activity.runResult? id = some result) :
    ∃ run : Run, activity.tasks[id]? = some (.run run) ∧ run.phase = .finished result ∧
      run.Earned initial.directory log id result := by
  unfold runResult? at ended
  split at ended
  · rename_i run task
    have phase : run.phase = .finished result := by
      unfold Run.result? at ended
      split at ended <;> simp_all
    have accounted := reached.accounted task
    simp only [Run.Accounted, phase] at accounted
    exact ⟨run, task, phase, accounted⟩
  · cases ended

end Reached

end Activity

end HomeAutomation
