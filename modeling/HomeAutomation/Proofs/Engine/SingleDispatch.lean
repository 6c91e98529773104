/-
  HomeAutomation.Proofs.Engine.SingleDispatch

  A dispatch that starts when no task is under way.  Until its turn comes the
  engine stays as it is; then the snapshot is applied at once, and from there
  on the only tasks that move are the runs that it has set off.  What those have
  come to when the dispatch returns is what it returns.
-/

import HomeAutomation.Proofs.Engine.Serialization

namespace HomeAutomation

variable {σ : Type}

namespace Run

/-- The run as it was when it was made. -/
def unbegun (run : Run) : Run := run.enter .ready 0

variable {run : Run} {backend : Backend σ} {self : Nat} {engine : Engine σ} {locks : LockTable}
  {step : RunStep σ}

theorem Proceeds.unbegun_eq (h : run.Proceeds backend self engine locks step) :
    step.run.unbegun = run.unbegun := by
  rw [h.run_eq]
  rfl

/-- A run that is over has no step. -/
theorem Proceeds.result?_eq_none (h : run.Proceeds backend self engine locks step) :
    run.result? = none := by
  cases h <;> simp [result?, *]

/-- Only a run that is inside waits for a call. -/
theorem Proceeds.pauses_eq_zero (h : run.Proceeds backend self engine locks step)
    (outside : step.run.isInside = false) : step.run.pauses = 0 := by
  cases h with
  | begin phase | read phase | restore phase => cases outside
  | accept phase | restored phase => cases outside
  | _ => rfl

theorem isInside_eq_false_of_result? {result : Except ExecuteError ExecuteResult}
    (h : run.result? = some result) : run.isInside = false := by
  unfold result? at h
  unfold isInside
  split at h <;> simp_all

end Run

namespace Activity

variable {backend : Backend σ} {activity next : Activity σ} {self : Nat}

-- ============================================================================
-- What is over stays over
-- ============================================================================

/-- Only runs that are inside wait for calls. -/
def PausesInside (activity : Activity σ) : Prop :=
  ∀ (id : Nat) (run : Run), activity.tasks[id]? = some (.run run) → run.isInside = false →
    run.pauses = 0

theorem PausesInside.append (inside : activity.PausesInside) (fresh : List Task)
    (tasks : next.tasks = activity.tasks ++ fresh)
    (unbegun : ∀ run, Task.run run ∈ fresh → run.pauses = 0) : next.PausesInside := by
  intro id run task outside
  rw [tasks] at task
  rcases Nat.lt_or_ge id activity.tasks.length with hid | hid
  · rw [List.getElem?_append_left hid] at task
    exact inside id run task outside
  · rw [List.getElem?_append_right hid] at task
    exact unbegun run (List.mem_of_getElem? task)

theorem PausesInside.set (inside : activity.PausesInside) {old new : Task}
    (task : activity.tasks[self]? = some old) (tasks : next.tasks = activity.tasks.set self new)
    (steady : ∀ run, new = .run run → run.isInside = false → run.pauses = 0) :
    next.PausesInside := by
  intro id run h outside
  rw [tasks, getElem?_set_task task] at h
  split at h
  · exact steady run (Option.some.inj h) outside
  · exact inside id run h outside

theorem PausesInside.step (inside : activity.PausesInside)
    (h : activity.Advances backend self next) : next.PausesInside := by
  cases h with
  | @pause run pauses task busy =>
    refine inside.set task rfl fun run' heq outside => ?_
    obtain rfl := Task.run.inj heq
    have : run.pauses = 0 := inside self run task outside
    omega
  | run task idle proceeds =>
    refine inside.set task rfl fun run' heq outside => ?_
    obtain rfl := Task.run.inj heq
    exact proceeds.pauses_eq_zero outside
  | queue task | refuse task | gather task =>
    exact inside.set task rfl fun run heq => by cases heq
  | @spread snapshot engine events slots runs task held observes fans =>
    have set : PausesInside { activity with
        tasks := activity.tasks.set self (.dispatch ⟨snapshot, .gathering slots⟩) } :=
      inside.set task rfl fun run heq => by cases heq
    refine set.append (runs.map .run) rfl fun run hr => ?_
    obtain ⟨id, a, -, rfl⟩ := mem_slotsOf_runs (by rw [fans]; simpa using hr)
    rfl

theorem Reached.pausesInside {initial : Engine σ} {log : List Contact}
    (reached : Reached backend initial log activity) : activity.PausesInside := by
  induction reached with
  | start empty => exact fun id run h => by simp at h
  | @submit _ activity request _ ih =>
    refine ih.append (request.task? activity.engine.book).toList rfl fun run h => ?_
    cases request with
    | execute action force =>
      obtain ⟨a, -, rfl⟩ : ∃ a, activity.engine.book.action? action = some a ∧
          Run.ofAction action a force none = run := by simpa [Request.task?] using h
      rfl
    | _ => simp [Request.task?] at h
  | advance _ step ih => exact ih.step step.advances

/-- A task that is over does not advance. -/
theorem Advances.not_finished (h : activity.Advances backend self next)
    (inside : activity.PausesInside) :
    ∃ task, activity.tasks[self]? = some task ∧ isFinished task = false := by
  cases h with
  | @pause run pauses task busy =>
    refine ⟨_, task, Option.isSome_eq_false_iff.2 (Option.isNone_iff_eq_none.2 ?_)⟩
    by_contra isOver
    obtain ⟨result, hresult⟩ := Option.ne_none_iff_exists'.1 isOver
    have : run.pauses = 0 := inside self run task (Run.isInside_eq_false_of_result? hresult)
    omega
  | run task idle proceeds => exact ⟨_, task, by simp [isFinished, proceeds.result?_eq_none]⟩
  | queue task | refuse task | spread task | gather task => exact ⟨_, task, rfl⟩

/-- A step leaves the other tasks as they are. -/
theorem Advances.others (h : activity.Advances backend self next) {id : Nat} {task : Task}
    (found : activity.tasks[id]? = some task) (hid : id ≠ self) : next.tasks[id]? = some task := by
  cases h with
  | @spread snapshot engine events slots runs own held observes fans =>
    have set : (activity.tasks.set self (.dispatch ⟨snapshot, .gathering slots⟩))[id]?
        = some task := by rw [getElem?_set_task own, if_neg hid]; exact found
    rw [List.getElem?_append_left (List.getElem?_eq_some_iff.1 set).1]
    exact set
  | pause own | run own | queue own | refuse own | gather own =>
    exact (getElem?_set_task own _ id).trans ((if_neg hid).trans found)

/-- A task that is over stays as it is. -/
theorem Advances.stays (h : activity.Advances backend self next) (inside : activity.PausesInside)
    {id : Nat} {task : Task} (found : activity.tasks[id]? = some task)
    (isOver : isFinished task = true) : next.tasks[id]? = some task := by
  refine h.others found ?_
  rintro rfl
  obtain ⟨other, hother, busy⟩ := h.not_finished inside
  obtain rfl : task = other := Option.some.inj (found.symm.trans hother)
  rw [isOver] at busy
  cases busy

/-- The result of a run that is over does not change. -/
theorem Advances.runResult?_eq (h : activity.Advances backend self next)
    (inside : activity.PausesInside) {id : Nat} {result : Except ExecuteError ExecuteResult}
    (isOver : activity.runResult? id = some result) : next.runResult? id = some result := by
  obtain ⟨run, task, hrun⟩ : ∃ run : Run, activity.tasks[id]? = some (.run run) ∧
      run.result? = some result := by
    unfold runResult? at isOver
    split at isOver
    · exact ⟨_, ‹_›, isOver⟩
    · cases isOver
  have stays := h.stays inside task (by simp [isFinished, hrun])
  simpa [runResult?, stays] using hrun

/-- Nor does that of a dispatch. -/
theorem Advances.dispatchResult?_eq (h : activity.Advances backend self next)
    (inside : activity.PausesInside) {id : Nat}
    {result : Except DispatchError (List ActionOutcome)}
    (isOver : activity.dispatchResult? id = some result) :
    next.dispatchResult? id = some result := by
  obtain ⟨snapshot, task⟩ : ∃ snapshot,
      activity.tasks[id]? = some (.dispatch ⟨snapshot, .finished result⟩) := by
    unfold dispatchResult? at isOver
    split at isOver
    · rename_i task
      exact ⟨_, Option.some.inj isOver ▸ task⟩
    · cases isOver
  simp [dispatchResult?, h.stays inside task rfl]

theorem outcomes?_cons {activity : Activity σ} {slot : Slot} {slots : List Slot}
    {outcomes : List ActionOutcome} :
    activity.outcomes? (slot :: slots) = some outcomes ↔
      ∃ outcome rest, activity.outcome? slot = some outcome ∧
        activity.outcomes? slots = some rest ∧ outcomes = outcome :: rest := by
  unfold outcomes?
  rw [List.mapM_cons]
  cases activity.outcome? slot with
  | none => simp
  | some outcome => cases slots.mapM activity.outcome? <;> simp [eq_comm]

/-- Outcomes that are known do not change. -/
theorem Advances.outcomes?_eq (h : activity.Advances backend self next)
    (inside : activity.PausesInside) {slots : List Slot} {outcomes : List ActionOutcome}
    (known : activity.outcomes? slots = some outcomes) : next.outcomes? slots = some outcomes := by
  induction slots generalizing outcomes with
  | nil => exact known
  | cons slot slots ih =>
    obtain ⟨outcome, rest, hslot, hslots, rfl⟩ := outcomes?_cons.1 known
    refine outcomes?_cons.2 ⟨outcome, rest, ?_, ih hslots, rfl⟩
    unfold outcome? at hslot ⊢
    split at hslot
    · exact hslot
    · obtain ⟨result, hresult, rfl⟩ := Option.map_eq_some_iff.1 hslot
      simp [h.runResult?_eq inside hresult]

-- ============================================================================
-- One dispatch
-- ============================================================================

/-- The tasks of a fan-out: those before it, the dispatch, and its runs. -/
structure Fanned (before : List Task) (snapshot : Json) (engine : Engine σ) (notices : List Notice)
    (log : List Contact) (activity : Activity σ) (phase : DispatchPhase) (slots : List Slot)
    (runs : List Run) : Prop where
  tasks : activity.tasks = before ++ .dispatch ⟨snapshot, phase⟩ :: runs.map .run
  fans : slotsOf engine.book false (some before.length) (before.length + 1) notices
    = (slots, runs.map Run.unbegun)
  phase_eq : phase = .gathering slots ∨
    ∃ outcomes, phase = .finished (.ok outcomes) ∧ activity.outcomes? slots = some outcomes
  events : activity.engine.book.events = engine.book.events
  plans : ∀ id, activity.engine.book.plan? id = engine.book.plan? id
  contacts : ∀ contact ∈ log,
    before.length < contact.task ∧ contact.task ≤ before.length + runs.length

/-- What a dispatch that starts in a quiet activity has come to. -/
inductive Solo (quiet : Activity σ) (snapshot : Json) (log : List Contact)
    (activity : Activity σ) : Prop
  | waiting {phase : DispatchPhase} (silent : log = [])
      (unopened : phase = .ready ∨ phase = .queued)
      (tasks : activity.tasks = quiet.tasks ++ [.dispatch ⟨snapshot, phase⟩])
      (engine : activity.engine = quiet.engine)
  | refused {e : DispatchError} (silent : log = [])
      (observes : quiet.engine.observe snapshot = (activity.engine, .error e))
      (tasks : activity.tasks = quiet.tasks ++ [.dispatch ⟨snapshot, .finished (.error e)⟩])
  | fanned {engine : Engine σ} {events : List Nat} {phase : DispatchPhase} {slots : List Slot}
      {runs : List Run} (observes : quiet.engine.observe snapshot = (engine, .ok events))
      (fanned : activity.Fanned quiet.tasks snapshot engine (engine.notices events) log phase slots
        runs)

/-- The runs of a fan-out are as they were made. -/
theorem slotsOf_made (book : RuleBook) (force : Bool) (parent : Option Nat) (first : Nat)
    (notices : List Notice) :
    (slotsOf book force parent first notices).2.map Run.unbegun
      = (slotsOf book force parent first notices).2 := by
  refine (List.map_congr_left fun run hr => ?_).trans (List.map_id _)
  obtain ⟨id, a, -, rfl⟩ := mem_slotsOf_runs hr
  rfl

/-- Where a task stands among those of a fan-out. -/
theorem task_cases {before : List Task} {middle : Task} {runs : List Run} {task : Task}
    (h : (before ++ middle :: runs.map .run)[self]? = some task) :
    before[self]? = some task ∨ (self = before.length ∧ task = middle) ∨
      ∃ i run, self = before.length + (i + 1) ∧ runs[i]? = some run ∧ task = .run run := by
  rcases Nat.lt_trichotomy self before.length with hlt | rfl | hgt
  · rw [List.getElem?_append_left hlt] at h
    exact .inl h
  · exact .inr (.inl ⟨rfl, by simpa [eq_comm] using h⟩)
  · obtain ⟨i, rfl⟩ : ∃ i, self = before.length + (i + 1) :=
      ⟨self - before.length - 1, by omega⟩
    rw [List.getElem?_append_right (by omega), Nat.add_sub_cancel_left, List.getElem?_cons_succ,
      List.getElem?_map] at h
    obtain ⟨run, hrun, rfl⟩ := Option.map_eq_some_iff.1 h
    exact .inr (.inr ⟨i, run, rfl, hrun, rfl⟩)

/-- A run that goes on stays the run of its notification. -/
theorem set_run (before : List Task) (middle : Task) {runs : List Run} {i : Nat} {run run' : Run}
    (hi : runs[i]? = some run) (same : run'.unbegun = run.unbegun) :
    (before ++ middle :: runs.map Task.run).set (before.length + (i + 1)) (.run run')
        = before ++ middle :: (runs.set i run').map Task.run ∧
      (runs.set i run').map Run.unbegun = runs.map Run.unbegun := by
  constructor
  · rw [List.set_append_right _ _ (by omega), Nat.add_sub_cancel_left, List.set_cons_succ,
      List.map_set]
  · refine List.ext_getElem? fun j => ?_
    rw [List.getElem?_map, List.getElem?_map, List.getElem?_set]
    split
    · rename_i hij
      subst hij
      rw [hi, if_pos (List.getElem?_eq_some_iff.1 hi).1]
      simp [same]
    · rfl

variable {quiet : Activity σ} {snapshot : Json} {log : List Contact}

/-- What a step says to a device is said by the task that steps. -/
theorem task_of_mem_contacts {contact : Contact} (h : contact ∈ activity.contacts backend self) :
    contact.task = self := by
  unfold contacts at h
  split at h
  · split at h
    · exact (contact?_eq_some (Option.mem_toList.1 h)).1
    · cases h
  · cases h

section Fanned

variable {engine : Engine σ} {notices : List Notice} {phase : DispatchPhase} {slots : List Slot}
  {runs : List Run}

/-- A step of a run of a fan-out, which stays the run of its notification. -/
theorem Fanned.goOn
    (fanned : activity.Fanned quiet.tasks snapshot engine notices log phase slots runs)
    (inside : activity.PausesInside) {i : Nat} {run run' : Run} (hi : runs[i]? = some run)
    (same : run'.unbegun = run.unbegun)
    (h : activity.Advances backend (quiet.tasks.length + (i + 1)) next)
    (tasks : next.tasks = activity.tasks.set (quiet.tasks.length + (i + 1)) (.run run'))
    (events : next.engine.book.events = activity.engine.book.events)
    (plans : ∀ id, next.engine.book.plan? id = activity.engine.book.plan? id) :
    next.Fanned quiet.tasks snapshot engine notices
      (log ++ activity.contacts backend (quiet.tasks.length + (i + 1))) phase slots
      (runs.set i run') := by
  obtain ⟨moved, made⟩ := set_run quiet.tasks (.dispatch ⟨snapshot, phase⟩) hi same
  refine ⟨by rw [tasks, fanned.tasks]; exact moved, by rw [made]; exact fanned.fans,
    fanned.phase_eq.imp_right ?_, events.trans fanned.events,
    fun id => (plans id).trans (fanned.plans id), fun contact hc => ?_⟩
  · rintro ⟨outcomes, rfl, known⟩
    exact ⟨outcomes, rfl, h.outcomes?_eq inside known⟩
  · rw [List.length_set]
    rcases List.mem_append.1 hc with hc | hc
    · exact fanned.contacts contact hc
    · have hi := (List.getElem?_eq_some_iff.1 hi).1
      have hc := task_of_mem_contacts hc
      omega

/-- Steps of the runs of a fan-out, and the last step of its dispatch. -/
theorem Fanned.step
    (fanned : activity.Fanned quiet.tasks snapshot engine notices log phase slots runs)
    (isOver : quiet.Quiet) (inside : activity.PausesInside)
    (h : activity.Advances backend self next) :
    ∃ phase runs, next.Fanned quiet.tasks snapshot engine notices
      (log ++ activity.contacts backend self) phase slots runs := by
  obtain ⟨task, own, busy⟩ := h.not_finished inside
  have own' := own
  rw [fanned.tasks] at own'
  rcases task_cases own' with old | ⟨rfl, rfl⟩ | ⟨i, run, rfl, hi, rfl⟩
  · rw [isOver task (List.mem_of_getElem? old)] at busy
    cases busy
  · -- the dispatch itself: it gathers
    have hset (phase' : DispatchPhase) : activity.tasks.set quiet.tasks.length
          (.dispatch ⟨snapshot, phase'⟩)
        = quiet.tasks ++ .dispatch ⟨snapshot, phase'⟩ :: runs.map .run := by
      rw [fanned.tasks, List.set_append_right _ _ (Nat.le_refl _), Nat.sub_self, List.set_cons_zero]
    have gathering : phase = .gathering slots := by
      refine fanned.phase_eq.resolve_right ?_
      rintro ⟨outcomes, rfl, -⟩
      cases busy
    subst gathering
    cases id h with
    | @gather snapshot' slots' outcomes task known =>
      obtain ⟨rfl, rfl⟩ : snapshot = snapshot' ∧ slots = slots' := by simpa [own] using task
      refine ⟨.finished (.ok outcomes), runs, hset _, fanned.fans, .inr ⟨outcomes, rfl, ?_⟩,
        fanned.events, fanned.plans, ?_⟩
      · exact h.outcomes?_eq inside known
      · rw [contacts_dispatch task, List.append_nil]
        exact fanned.contacts
    | pause task | run task | queue task | refuse task | spread task => simp [own] at task
  · -- a run of the fan-out
    cases id h with
    | @pause run' pauses task busy =>
      obtain rfl : run = run' := by simpa [own] using task
      have same : ({ run with pauses } : Run).unbegun = run.unbegun := rfl
      exact ⟨phase, _, fanned.goOn inside hi same h rfl rfl fun _ => rfl⟩
    | @run run' step task idle proceeds =>
      obtain rfl : run = run' := by simpa [own] using task
      exact ⟨phase, _, fanned.goOn inside hi proceeds.unbegun_eq h rfl proceeds.events_eq
        proceeds.plan?_eq⟩
    | queue task | refuse task | spread task | gather task => simp [own] at task

end Fanned

theorem Solo.step (solo : Solo quiet snapshot log activity) (isOver : quiet.Quiet)
    (inside : activity.PausesInside) (h : activity.Advances backend self next) :
    Solo quiet snapshot (log ++ activity.contacts backend self) next := by
  obtain ⟨task, own, busy⟩ := h.not_finished inside
  have alone {dispatch : Dispatch} (tasks : activity.tasks = quiet.tasks ++ [.dispatch dispatch]) :
      self = quiet.tasks.length ∧ task = .dispatch dispatch := by
    have own' :
        (quiet.tasks ++ .dispatch dispatch :: ([] : List Run).map .run)[self]? = some task :=
      tasks ▸ own
    rcases task_cases own' with old | here | ⟨i, run, -, hi, -⟩
    · rw [isOver task (List.mem_of_getElem? old)] at busy
      cases busy
    · exact here
    · cases hi
  cases solo with
  | @waiting phase silent unopened tasks engine =>
    obtain ⟨rfl, rfl⟩ := alone tasks
    have hset (task : Task) :
        activity.tasks.set quiet.tasks.length task = quiet.tasks ++ [task] := by
      rw [tasks, List.set_append_right _ _ (Nat.le_refl _), Nat.sub_self, List.set_cons_zero]
    have hlog : log ++ activity.contacts backend quiet.tasks.length = [] := by
      rw [silent, contacts_dispatch own]
      rfl
    rw [hlog]
    cases h with
    | @queue snapshot' task =>
      obtain ⟨rfl, rfl⟩ : snapshot = snapshot' ∧ phase = .ready := by simpa [own] using task
      exact .waiting rfl (.inr rfl) (hset _) engine
    | @refuse snapshot' engine' e task held observes =>
      obtain ⟨rfl, rfl⟩ : snapshot = snapshot' ∧ phase = .queued := by simpa [own] using task
      exact .refused rfl (engine ▸ observes) (hset _)
    | @spread snapshot' engine' events slots runs task held observes fans =>
      obtain ⟨rfl, rfl⟩ : snapshot = snapshot' ∧ phase = .queued := by simpa [own] using task
      have first : activity.tasks.length = quiet.tasks.length + 1 := by simp [tasks]
      have made : runs.map Run.unbegun = runs := by
        have := slotsOf_made engine'.book false (some quiet.tasks.length) activity.tasks.length
          (engine'.notices events)
        rwa [fans] at this
      have tasks' : activity.tasks.set quiet.tasks.length (.dispatch ⟨snapshot, .gathering slots⟩)
            ++ runs.map .run
          = quiet.tasks ++ .dispatch ⟨snapshot, .gathering slots⟩ :: runs.map .run := by
        rw [hset, List.append_assoc, List.singleton_append]
      have fans' : slotsOf engine'.book false (some quiet.tasks.length) (quiet.tasks.length + 1)
          (engine'.notices events) = (slots, runs.map Run.unbegun) := by
        rw [made, ← first]
        exact fans
      exact .fanned (engine ▸ observes) ⟨tasks', fans', .inl rfl, rfl, fun _ => rfl, by simp⟩
    | @gather snapshot' slots outcomes task =>
      obtain ⟨-, rfl⟩ : snapshot = snapshot' ∧ phase = .gathering slots := by simpa [own] using task
      rcases unopened with h | h <;> cases h
    | pause task | run task => simp [own] at task
  | refused silent observes tasks =>
    obtain ⟨rfl, rfl⟩ := alone tasks
    cases busy
  | fanned observes fanned =>
    obtain ⟨phase, runs, fanned⟩ := fanned.step isOver inside h
    exact .fanned observes fanned

/-- Whatever the order of steps, a dispatch that starts in a quiet activity goes its way alone. -/
theorem Reached.solo {initial : Engine σ} {past : List Contact}
    (reached : Reached backend initial past quiet) (isOver : quiet.Quiet)
    (steps : (quiet.submit (.process snapshot)).Steps backend log activity) :
    Solo quiet snapshot log activity := by
  induction steps with
  | refl => exact .waiting rfl (.inl rfl) rfl rfl
  | tail steps step ih =>
    exact ih.step isOver ((reached.submit _).steps steps).pausesInside step.advances

/-- A dispatch that has returned outcomes has applied its snapshot and gathered its runs. -/
theorem Solo.returned (solo : Solo quiet snapshot log activity) {outcomes : List ActionOutcome}
    (result : activity.dispatchResult? quiet.tasks.length = some (.ok outcomes)) :
    ∃ engine events slots runs, quiet.engine.observe snapshot = (engine, .ok events) ∧
      activity.Fanned quiet.tasks snapshot engine (engine.notices events) log
        (.finished (.ok outcomes)) slots runs ∧ activity.outcomes? slots = some outcomes := by
  unfold dispatchResult? at result
  cases solo with
  | waiting silent unopened tasks engine =>
    rw [tasks] at result
    rcases unopened with rfl | rfl <;> simp at result
  | refused silent observes tasks =>
    rw [tasks] at result
    simp at result
  | fanned observes fanned =>
    rw [fanned.tasks] at result
    rcases fanned.phase_eq with rfl | ⟨found, rfl, known⟩
    · simp at result
    · obtain rfl : found = outcomes := by simpa using result
      exact ⟨_, _, _, _, observes, fanned, known⟩

/-- A dispatch that has failed has started nothing. -/
theorem Solo.failed (solo : Solo quiet snapshot log activity) {e : DispatchError}
    (result : activity.dispatchResult? quiet.tasks.length = some (.error e)) :
    quiet.engine.observe snapshot = (activity.engine, .error e) ∧ log = [] ∧
      activity.tasks = quiet.tasks ++ [.dispatch ⟨snapshot, .finished (.error e)⟩] := by
  unfold dispatchResult? at result
  cases solo with
  | waiting silent unopened tasks engine =>
    rw [tasks] at result
    rcases unopened with rfl | rfl <;> simp at result
  | refused silent observes tasks =>
    rw [tasks] at result
    obtain rfl : _ = e := by simpa using result
    exact ⟨observes, silent, tasks⟩
  | fanned observes fanned =>
    rw [fanned.tasks] at result
    rcases fanned.phase_eq with rfl | ⟨found, rfl, known⟩ <;> simp at result

end Activity

end HomeAutomation
