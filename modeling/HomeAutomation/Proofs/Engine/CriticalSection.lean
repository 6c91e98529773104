/-
  HomeAutomation.Proofs.Engine.CriticalSection

  The calls that devices see.  `Backend.recording` keeps every call when it is
  started; on any run of the engine the calls started at one device are those
  that visits account for, followed by the one that is in progress, if any.

  With `Activity.Serial` this says how devices are used: one call at a time, in
  whole blocks of a read, a command and perhaps a restoring command, each of
  which belongs to one execution.
-/

import HomeAutomation.Proofs.Engine.Holding

namespace HomeAutomation

variable {σ : Type}

-- ============================================================================
-- Recorded calls
-- ============================================================================

/-- A backend that also keeps the calls that are started, in their order. -/
def Backend.recording (backend : Backend σ) : Backend (σ × List DeviceCall) where
  startCall call s :=
    (((backend.startCall call s.1).1, s.2 ++ [call]), (backend.startCall call s.1).2)
  read target s := (((backend.read target s.1).1, s.2), (backend.read target s.1).2)
  command target state s :=
    (((backend.command target state s.1).1, s.2), (backend.command target state s.1).2)
  startSave s := (((backend.startSave s.1).1, s.2), (backend.startSave s.1).2)
  save deviceId state s :=
    (((backend.save deviceId state s.1).1, s.2), (backend.save deviceId state s.1).2)

/-- What a call asks of its device. -/
inductive Demand
  | get
  | set (state : DeviceState)

def DeviceCall.demand : DeviceCall → Demand
  | read _ => .get
  | command _ state => .set state

/-- The call behind an exchange; a device that is left alone is not called. -/
def Exchange.demand? : Exchange → Option Demand
  | skipped => none
  | read _ => some .get
  | command state _ => some (.set state)

/-- The calls of a visit. -/
def Visit.demands (visit : Visit) : List Demand :=
  match visit.course with
  | .skipped => []
  | .commanded _ _ => [.get, .set visit.desired]
  | .rolledBack _ _ previous _ => [.get, .set visit.desired, .set previous]

/-- What calls ask of one device. -/
def demandsAt (deviceId : String) (calls : List DeviceCall) : List Demand :=
  (calls.filter (·.deviceId = deviceId)).map DeviceCall.demand

theorem demandsAt_append (deviceId : String) (calls more : List DeviceCall) :
    demandsAt deviceId (calls ++ more) = demandsAt deviceId calls ++ demandsAt deviceId more := by
  simp [demandsAt]

theorem Visit.filterMap_contacts (deviceId : String) (visit : Visit) :
    (visit.contacts deviceId).filterMap (·.exchange.demand?) = visit.demands := by
  rcases visit with ⟨task, force, desired, _ | _ | _⟩ <;> rfl

theorem Visit.filterMap_flatMap_contacts (deviceId : String) (visits : List Visit) :
    (visits.flatMap (Visit.contacts deviceId)).filterMap (·.exchange.demand?)
      = visits.flatMap Visit.demands := by
  induction visits with
  | nil => rfl
  | cons visit rest ih =>
    simp only [List.flatMap_cons, List.filterMap_append, ih, filterMap_contacts]

namespace Run

variable {backend : Backend σ} {self : Nat} {run : Run}

theorem isInside_of_call? {call : DeviceCall} (h : run.call? = some call) :
    run.isInside = true ∧ run.claim? = some call.deviceId := by
  unfold call? at h
  split at h <;> cases h <;> simp [isInside, claim?, target?, DeviceCall.deviceId, *]

/-- What a run that waits for a call has asked of its device. -/
def demand? (run : Run) : Option (String × Demand) :=
  run.call?.map fun call => (call.deviceId, call.demand)

theorem inHand_demand? : InHand demand? where
  inside holds := by
    obtain ⟨call, waits, same⟩ := Option.map_eq_some_iff.1 holds
    obtain ⟨rfl, -⟩ := Prod.mk.inj same
    exact isInside_of_call? waits
  resumes _ _ := rfl

variable {engine : Engine (σ × List DeviceCall)} {locks : LockTable}
  {step : RunStep (σ × List DeviceCall)}

/-- The calls started in a step are those that the run then waits for. -/
theorem Proceeds.calls_eq (h : run.Proceeds backend.recording self engine locks step) :
    step.engine.outside.2 = engine.outside.2 ++ step.run.call?.toList := by
  cases h <;> simp [close, leave, Run.accept, sendDesired, enter, call?, Backend.recording]

/-- What passes between a run and its device in a step is the end of the call it waited for. -/
theorem Proceeds.demand_exchanges (h : run.Proceeds backend.recording self engine locks step) :
    (run.exchanges backend.recording self engine locks).filterMap Exchange.demand?
      = run.call?.toList.map DeviceCall.demand := by
  cases h with
  | skip phase held needless =>
    simp [exchanges, contact?, call?, phase, held, needless, Exchange.demand?]
  | begin phase held needed => simp [exchanges, contact?, call?, phase, held, needed]
  | unmapped phase | ask phase | save phase => simp [exchanges, contact?, call?, phase]
  | _ => simp [exchanges, contact?, call?, *, Exchange.demand?, DeviceCall.demand]

end Run

namespace Activity

variable {backend : Backend σ} {activity next : Activity (σ × List DeviceCall)} {self : Nat}
  {deviceId : String}

-- ============================================================================
-- Calls in progress
-- ============================================================================

/-- The call in progress at a device. -/
inductive InProgress (activity : Activity σ) (deviceId : String) : List Demand → Prop
  | idle (nobody : ∀ {id : Nat} {run : Run} {call : DeviceCall},
      activity.tasks[id]? = some (.run run) → run.call? = some call →
      call.deviceId ≠ deviceId) : InProgress activity deviceId []
  | busy {id : Nat} {run : Run} {call : DeviceCall} (task : activity.tasks[id]? = some (.run run))
      (waits : run.call? = some call) (at_device : call.deviceId = deviceId) :
      InProgress activity deviceId [call.demand]

/-- The call in progress at a device is what the run inside has in hand. -/
theorem inProgress_iff_held {activity : Activity σ} {demands : List Demand} :
    activity.InProgress deviceId demands ↔ activity.Held Run.demand? deviceId demands := by
  constructor
  · rintro (nobody | ⟨task, waits, rfl⟩)
    · refine .nobody fun task holds => ?_
      obtain ⟨call, waits, same⟩ := Option.map_eq_some_iff.1 holds
      exact nobody task waits (congrArg Prod.fst same)
    · exact .holder task (by simp [Run.demand?, waits])
  · rintro (nobody | ⟨task, holds⟩)
    · refine .idle fun {id run call} task waits at_device => ?_
      exact nobody (x := call.demand) task (by simp [Run.demand?, waits, at_device])
    · obtain ⟨call, waits, same⟩ := Option.map_eq_some_iff.1 holds
      obtain ⟨at_device, rfl⟩ := Prod.mk.inj same
      exact .busy task waits at_device

/-- The calls started at a device are those that were answered and the one in progress. -/
def CallsAnswered (log : List Contact) (activity : Activity (σ × List DeviceCall))
    (deviceId : String) : Prop :=
  ∃ demands, activity.InProgress deviceId demands ∧
    demandsAt deviceId activity.engine.outside.2
      = (saidTo deviceId log).filterMap (·.exchange.demand?) ++ demands

namespace CallsAnswered

variable {log : List Contact}

/-- A calm change starts and ends no call. -/
theorem calm (answered : CallsAnswered log activity deviceId) (calm : activity.Calm next) :
    CallsAnswered log next deviceId := by
  obtain ⟨demands, progress, calls⟩ := answered
  have held := (inProgress_iff_held.1 progress).calm Run.inHand_demand? calm
  refine ⟨demands, inProgress_iff_held.2 held, ?_⟩
  rw [calm.outside]
  exact calls

/-- A step of a run at another device, or at none. -/
theorem proceed_other (answered : CallsAnswered log activity deviceId) {run : Run}
    {step : RunStep (σ × List DeviceCall)} (task : activity.tasks[self]? = some (.run run))
    (proceeds : run.Proceeds backend.recording self activity.engine activity.locks step)
    (other : run.claim? ≠ some deviceId) :
    CallsAnswered (log ++ activity.contacts backend.recording self)
      { activity.put self (.run step.run) with engine := step.engine, locks := step.locks }
      deviceId := by
  obtain ⟨demands, progress, calls⟩ := answered
  have held := (inProgress_iff_held.1 progress).proceed_other Run.inHand_demand? task proceeds other
  have none : demandsAt deviceId step.run.call?.toList = [] := by
    cases waits : step.run.call? with
    | none => rfl
    | some call =>
      have elsewhere : call.deviceId ≠ deviceId := by
        rintro rfl
        obtain ⟨inside, claim⟩ := Run.isInside_of_call? waits
        exact other (proceeds.claim?_of_isInside inside claim)
      simp [demandsAt, elsewhere]
  refine ⟨demands, inProgress_iff_held.2 held, ?_⟩
  rw [proceeds.calls_eq, demandsAt_append, none, saidTo_append, saidTo_contacts_ne task other]
  simpa using calls

/-- A step of the run at the device ends the call in progress and may start another. -/
theorem proceed_self (answered : CallsAnswered log activity deviceId) (kept : activity.LocksKept)
    {run : Run} {step : RunStep (σ × List DeviceCall)}
    (task : activity.tasks[self]? = some (.run run)) (idle : run.pauses = 0)
    (proceeds : run.Proceeds backend.recording self activity.engine activity.locks step)
    (claim : run.claim? = some deviceId) :
    CallsAnswered (log ++ activity.contacts backend.recording self)
      { activity.put self (.run step.run) with engine := step.engine, locks := step.locks }
      deviceId := by
  obtain ⟨demands, progress, calls⟩ := answered
  have before := (inProgress_iff_held.1 progress).eq_of_claim Run.inHand_demand? kept task proceeds
    claim
  have after := Held.proceed_self Run.inHand_demand? kept task proceeds claim
  have started : demandsAt deviceId step.run.call?.toList
      = (step.run.demand?.map (·.2)).toList := by
    unfold Run.demand?
    cases waits : step.run.call? with
    | none => rfl
    | some call =>
      obtain ⟨inside, hc⟩ := Run.isInside_of_call? waits
      have at_device : call.deviceId = deviceId :=
        Option.some.inj ((proceeds.claim?_of_isInside inside hc).symm.trans claim)
      simp [demandsAt, at_device]
  have ended : (saidTo deviceId (activity.contacts backend.recording self)).filterMap
        (·.exchange.demand?) = (run.demand?.map (·.2)).toList := by
    rw [saidTo_contacts_self task idle claim, List.filterMap_map]
    refine proceeds.demand_exchanges.trans ?_
    unfold Run.demand?
    cases run.call? <;> rfl
  refine ⟨_, inProgress_iff_held.2 after, ?_⟩
  rw [proceeds.calls_eq, demandsAt_append, started, calls, before, saidTo_append,
    List.filterMap_append, ended]

theorem step (answered : CallsAnswered log activity deviceId) (kept : activity.LocksKept)
    (h : activity.Advances backend.recording self next) :
    CallsAnswered (log ++ activity.contacts backend.recording self) next deviceId := by
  have dispatch {old : Dispatch} (task : activity.tasks[self]? = some (.dispatch old)) :
      CallsAnswered (log ++ activity.contacts backend.recording self) next deviceId := by
    rw [contacts_dispatch task, List.append_nil]
    exact answered.calm (.of_dispatch h task)
  cases h with
  | @pause run pauses task busy =>
    obtain ⟨demands, progress, calls⟩ := answered
    have held := (inProgress_iff_held.1 progress).pause Run.inHand_demand? task pauses
    exact ⟨demands, inProgress_iff_held.2 held, by simpa [contacts, task, busy, put] using calls⟩
  | @run run step task idle proceeds =>
    by_cases claim : run.claim? = some deviceId
    · exact answered.proceed_self kept task idle proceeds claim
    · exact answered.proceed_other task proceeds claim
  | queue task | gather task | refuse task | spread task => exact dispatch task

end CallsAnswered

-- ============================================================================
-- Reached activities
-- ============================================================================

/-- No run has passed the lock of a device. -/
def IsVacant (activity : Activity σ) (deviceId : String) : Prop :=
  ∀ {id : Nat} {run : Run}, activity.tasks[id]? = some (.run run) → run.isInside = true →
    run.claim? ≠ some deviceId

/-- Nobody has passed a lock that is free. -/
theorem LocksKept.isVacant {activity : Activity σ} (kept : activity.LocksKept)
    (free : (activity.locks.lock deviceId).line = []) : activity.IsVacant deviceId := by
  intro id run task inside claim
  have holds := (kept deviceId).inside_holds id (inside_of_task task inside claim)
  rw [free] at holds
  cases holds

/-- No action has a state to restore on a device that nobody is at. -/
theorem Assigned.previous?_eq_none (assigned : activity.Assigned)
    (vacant : activity.IsVacant deviceId) {action : Nat} {plan : Action} {target : DeviceTarget}
    (hplan : activity.engine.book.plan? action = some plan)
    (known : activity.engine.directory.resolve plan.spec.location plan.spec.device.name
      = .ok target) (at_device : target.deviceId = deviceId) :
    activity.engine.book.previous? action = none := by
  refine Option.eq_none_iff_forall_ne_some.2 fun state noted => ?_
  obtain ⟨id, run, task, rfl, inside⟩ := assigned.noted noted
  obtain ⟨target', ht⟩ := Run.exists_target_of_isInside inside
  have resolved := assigned.resolves task ht
  obtain ⟨plan', hplan', carries⟩ := assigned.carries task
  obtain rfl : plan = plan' := Option.some.inj (hplan.symm.trans hplan')
  rw [carries.location, carries.kind, known] at resolved
  cases resolved
  exact vacant task inside (by simp [Run.claim?, ht, at_device])

namespace Reached

variable {initial : Engine (σ × List DeviceCall)} {log : List Contact}

theorem callsAnswered (reached : Reached backend.recording initial log activity)
    (fresh : initial.outside.2 = []) (deviceId : String) : CallsAnswered log activity deviceId := by
  induction reached with
  | start empty => exact ⟨[], .idle (by simp), by simp [fresh, demandsAt, saidTo]⟩
  | submit request reached ih => exact ih.calm (.submit _ request)
  | advance reached step ih => exact ih.step reached.locksKept step.advances

/-- The use of a device on any run of the engine.  Two runs are never in a call to it at once.  The
    calls started at it fall into whole visits, each of one execution, followed by what the run
    inside has begun; each visit follows from the record that the visits before it left.  While
    nobody is at the device, and so whenever its lock is free, nothing is begun and no action on it
    has a state to restore. -/
theorem device_visits (reached : Reached backend.recording initial log activity)
    (fresh : initial.outside.2 = []) (deviceId : String) :
    (∀ {id id' : Nat} {run run' : Run} {call call' : DeviceCall},
      activity.tasks[id]? = some (.run run) → run.call? = some call →
      activity.tasks[id']? = some (.run run') → run'.call? = some call' →
      call.deviceId = deviceId → call'.deviceId = deviceId → id = id') ∧
    (∃ visits rest demands, activity.Serial initial log deviceId visits rest ∧
      activity.InProgress deviceId demands ∧
      demandsAt deviceId activity.engine.outside.2 = visits.flatMap Visit.demands
        ++ rest.filterMap (·.exchange.demand?) ++ demands ∧
      (activity.IsVacant deviceId → rest = [] ∧ demands = [])) ∧
    ((activity.locks.lock deviceId).line = [] → activity.IsVacant deviceId) ∧
    (activity.IsVacant deviceId → ∀ {action : Nat} {plan : Action} {target : DeviceTarget},
      activity.engine.book.plan? action = some plan →
      activity.engine.directory.resolve plan.spec.location plan.spec.device.name = .ok target →
      target.deviceId = deviceId → activity.engine.book.previous? action = none) := by
  have kept := reached.locksKept
  refine ⟨fun task waits task' waits' hd hd' => ?_, ?_, kept.isVacant,
    fun vacant _ _ _ => reached.assigned.previous?_eq_none vacant⟩
  · obtain ⟨inside, claim⟩ := Run.isInside_of_call? waits
    obtain ⟨inside', claim'⟩ := Run.isInside_of_call? waits'
    exact (kept deviceId).inside_unique (inside_of_task task inside (hd ▸ claim))
      (inside_of_task task' inside' (hd' ▸ claim'))
  · obtain ⟨visits, rest, serial⟩ := reached.serial deviceId
    obtain ⟨demands, progress, calls⟩ := reached.callsAnswered fresh deviceId
    refine ⟨visits, rest, demands, serial, progress, ?_, fun vacant => ⟨?_, ?_⟩⟩
    · rw [calls, serial.said, List.filterMap_append, Visit.filterMap_flatMap_contacts]
    · cases serial.underway with
      | free => rfl
      | inside task inside claim => exact absurd claim (vacant task inside)
    · cases progress with
      | idle => rfl
      | busy task waits at_device =>
        obtain ⟨inside, claim⟩ := Run.isInside_of_call? waits
        exact absurd (at_device ▸ claim) (vacant task inside)

end Reached

end Activity

namespace Activity

/-- A hall whose lamp goes on with motion; the rule is carried out by hand twice at once. -/
def hall : Activity (Unit × List DeviceCall) :=
  let engine : Engine (Unit × List DeviceCall) :=
    { directory := .ofRooms [⟨"hall", .null, [⟨"lamp", .null, "light", "hall"⟩]⟩]
      range := ⟨16, 30⟩
      outside := ((), []) }
  ((({ engine } : Activity _).submit (.register "if motion in hall then light on" none)).submit
    (.execute 0 true)).submit (.execute 0 true)

/-- Two overlapping executions call the lamp one after the other. -/
theorem device_visits_hall : ∃ log activity,
    hall.Steps Backend.obliging.recording log activity ∧
      demandsAt "lamp" activity.engine.outside.2
        = [.get, .set { power := true }, .get, .set { power := true }] ∧
      ∃ (visits : List Visit) (rest : List Contact) (demands : List Demand),
        demandsAt "lamp" activity.engine.outside.2 = visits.flatMap Visit.demands
          ++ rest.filterMap (·.exchange.demand?) ++ demands := by
  have order : (hall.follow Backend.obliging.recording [0, 1, 0, 0, 0, 0, 1, 1]).map
        (fun end_ => demandsAt "lamp" end_.2.engine.outside.2)
      = some [.get, .set { power := true }, .get, .set { power := true }] := rfl
  obtain ⟨⟨log, activity⟩, followed, calls⟩ := Option.map_eq_some_iff.1 order
  have steps := Steps.of_follow followed
  have reached : Reached Backend.obliging.recording _ log activity :=
    ((((Reached.start rfl).submit _).submit _).submit _).steps steps
  obtain ⟨-, ⟨visits, rest, demands, -, -, called, -⟩, -⟩ := reached.device_visits rfl "lamp"
  exact ⟨log, activity, steps, calls, visits, rest, demands, called⟩

end Activity

end HomeAutomation
