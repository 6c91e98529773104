/-
  HomeAutomation.Proofs.Engine.Serialization

  Executions on one device come one after the other.  What is said to a device
  over any run of the engine falls into visits, each of which belongs to one
  execution and starts from the record that the visit before it left, whatever
  else goes on in between.

  A visit enters the account when its last call has ended; the run inside may
  have begun one more, `Underway`.
-/

import HomeAutomation.Proofs.Engine.Assignment
import HomeAutomation.Proofs.Engine.Visit

namespace HomeAutomation

variable {σ : Type}

namespace Activity

/-- What the run inside has said to a device in a visit that still goes on. -/
inductive Underway (activity : Activity σ) (deviceId : String) : List Contact → Prop
  | free (nobody : ∀ id, ¬ (activity.has Task.isInside id = true ∧
      activity.claim? id = some deviceId)) : Underway activity deviceId []
  | inside {id : Nat} {run : Run} {said : List Exchange}
      (task : activity.tasks[id]? = some (.run run)) (inside : run.isInside = true)
      (claim : run.claim? = some deviceId)
      (begun : run.Begun (activity.engine.records.get? deviceId)
        (activity.engine.book.previous? run.action) said) :
      Underway activity deviceId (said.map (⟨id, deviceId, ·⟩))

/-- A visit was made by a run that is done with it. -/
def Made (activity : Activity σ) (visit : Visit) : Prop :=
  ∃ run : Run, activity.tasks[visit.task]? = some (.run run) ∧ run.isDone = true ∧
    run.force = visit.force ∧ run.desired = visit.desired

/-- What was said to one device. -/
def saidTo (deviceId : String) (log : List Contact) : List Contact :=
  log.filter (·.deviceId = deviceId)

/-- What was said to a device falls into visits, of which the last may still go on. -/
structure Serial (initial : Engine σ) (log : List Contact) (activity : Activity σ)
    (deviceId : String) (visits : List Visit) (rest : List Contact) : Prop where
  said : saidTo deviceId log = visits.flatMap (Visit.contacts deviceId) ++ rest
  chain : Visit.Chain (initial.records.get? deviceId) visits
  record : activity.engine.records.get? deviceId
    = visits.foldl Visit.recordAfter (initial.records.get? deviceId)
  nodup : (visits.map (·.task)).Nodup
  made : ∀ visit ∈ visits, activity.Made visit
  underway : activity.Underway deviceId rest

theorem saidTo_append (deviceId : String) (log more : List Contact) :
    saidTo deviceId (log ++ more) = saidTo deviceId log ++ saidTo deviceId more := by
  simp [saidTo]

namespace Serial

variable {initial : Engine σ} {log more : List Contact} {activity next : Activity σ}
  {deviceId : String} {visits : List Visit} {rest : List Contact}

/-- A step that completes no visit. -/
theorem extend (serial : activity.Serial initial log deviceId visits rest)
    {rest' : List Contact} (said : rest' = rest ++ saidTo deviceId more)
    (record : next.engine.records.get? deviceId = activity.engine.records.get? deviceId)
    (made : ∀ visit, activity.Made visit → next.Made visit)
    (underway : next.Underway deviceId rest') :
    next.Serial initial (log ++ more) deviceId visits rest' where
  said := by rw [saidTo_append, serial.said, said, List.append_assoc]
  chain := serial.chain
  record := record.trans serial.record
  nodup := serial.nodup
  made visit h := made visit (serial.made visit h)
  underway := underway

/-- A step that completes a visit. -/
theorem complete (serial : activity.Serial initial log deviceId visits rest) (visit : Visit)
    (said : rest ++ saidTo deviceId more = visit.contacts deviceId)
    (follows : visit.Follows (activity.engine.records.get? deviceId))
    (record : next.engine.records.get? deviceId
      = visit.recordAfter (activity.engine.records.get? deviceId))
    (fresh : ¬ ∃ run : Run, activity.tasks[visit.task]? = some (.run run) ∧ run.isDone = true)
    (made : ∀ visit, activity.Made visit → next.Made visit) (new : next.Made visit)
    (underway : next.Underway deviceId []) :
    next.Serial initial (log ++ more) deviceId (visits ++ [visit]) [] where
  said := by
    rw [saidTo_append, serial.said, List.append_assoc, said]
    simp
  chain := Visit.chain_append_singleton serial.chain (serial.record ▸ follows)
  record := by rw [record, serial.record, List.foldl_append]; rfl
  nodup := by
    have hnew : ∀ v ∈ visits, v.task ≠ visit.task := by
      intro v hv heq
      obtain ⟨run, hrun, hdone, -⟩ := serial.made v hv
      exact fresh ⟨run, heq ▸ hrun, hdone⟩
    simpa [List.nodup_append] using ⟨serial.nodup, hnew⟩
  made v hv := by
    rcases List.mem_append.1 hv with hv | hv
    · exact made v (serial.made v hv)
    · obtain rfl : v = visit := by simpa using hv
      exact new
  underway := underway

end Serial

-- ============================================================================
-- Steps
-- ============================================================================

variable {backend : Backend σ} {activity next : Activity σ} {self : Nat} {deviceId : String}
  {rest : List Contact}

/-- What a run has said is not taken back, and a run that is done stays done. -/
theorem Advances.made (h : activity.Advances backend self next) {visit : Visit}
    (made : activity.Made visit) : next.Made visit := by
  obtain ⟨run, hrun, done, force, desired⟩ := made
  have keep {old new : Dispatch} (task : activity.tasks[self]? = some (.dispatch old)) :
      (activity.tasks.set self (.dispatch new))[visit.task]? = some (.run run) := by
    rw [getElem?_set_task task, if_neg]
    · exact hrun
    · intro heq
      rw [heq, task] at hrun
      cases hrun
  cases h with
  | @pause run' pauses task busy =>
    by_cases heq : visit.task = self
    · obtain rfl : run' = run := by simpa [heq, task] using hrun
      exact ⟨{ run' with pauses }, by rw [put, getElem?_set_task task, if_pos heq], done, force,
        desired⟩
    · exact ⟨run, by rw [put, getElem?_set_task task, if_neg heq]; exact hrun, done, force,
        desired⟩
  | @run run' step task idle proceeds =>
    by_cases heq : visit.task = self
    · obtain rfl : run' = run := by simpa [heq, task] using hrun
      refine ⟨step.run, by simp only [put, getElem?_set_task task, if_pos heq], ?_, ?_, ?_⟩
      · cases proceeds with
        | save phase => rfl
        | _ => simp_all [Run.isDone]
      · rw [proceeds.run_eq]
        exact force
      · rw [proceeds.run_eq]
        exact desired
    · exact ⟨run, by simp only [put, getElem?_set_task task, if_neg heq]; exact hrun, done, force,
        desired⟩
  | queue task => exact ⟨run, keep task, done, force, desired⟩
  | refuse task => exact ⟨run, keep task, done, force, desired⟩
  | gather task => exact ⟨run, keep task, done, force, desired⟩
  | @spread snapshot engine events slots runs task =>
    refine ⟨run, ?_, done, force, desired⟩
    have hset : (activity.tasks.set self (.dispatch ⟨snapshot, .gathering slots⟩))[visit.task]?
        = some (.run run) := keep task
    rw [List.getElem?_append_left (List.getElem?_eq_some_iff.1 hset).1]
    exact hset

/-- Two runs of one action that have asked for a lock have asked for the same. -/
theorem Assigned.claim?_eq (assigned : activity.Assigned) {id id' : Nat} {run run' : Run}
    (task : activity.tasks[id]? = some (.run run))
    (task' : activity.tasks[id']? = some (.run run')) (action : run.action = run'.action)
    {d d' : String} (claim : run.claim? = some d) (claim' : run'.claim? = some d') : d = d' := by
  obtain ⟨target, ht, rfl⟩ := Option.map_eq_some_iff.1 claim
  obtain ⟨target', ht', rfl⟩ := Option.map_eq_some_iff.1 claim'
  obtain ⟨plan, hp, hc⟩ := assigned.carries task
  obtain ⟨plan', hp', hc'⟩ := assigned.carries task'
  obtain rfl : plan = plan' := by
    rw [action] at hp
    exact Option.some.inj (hp.symm.trans hp')
  have hr := assigned.resolves task ht
  have hr' := assigned.resolves task' ht'
  rw [hc.location, hc.kind] at hr
  rw [hc'.location, hc'.kind, hr] at hr'
  cases hr'
  rfl

/-- A run that has passed the lock of a device, as the lock accounts for it. -/
theorem inside_of_task {id : Nat} {run : Run} (task : activity.tasks[id]? = some (.run run))
    (inside : run.isInside = true) (claim : run.claim? = some deviceId) :
    activity.has Task.isInside id = true ∧ activity.claim? id = some deviceId :=
  ⟨by rw [has, task]; exact inside, by rw [Activity.claim?, task]; exact claim⟩

/-- The run that is at a device in a step is the one that holds its lock. -/
theorem head_of_proceeds (kept : activity.LocksKept) {run : Run} {step : RunStep σ}
    (task : activity.tasks[self]? = some (.run run))
    (proceeds : run.Proceeds backend self activity.engine activity.locks step)
    (claim : run.claim? = some deviceId) :
    (activity.locks.lock deviceId).line.head? = some self := by
  cases proceeds with
  | unmapped phase | ask phase => simp [Run.claim?, Run.target?, phase] at claim
  | begin phase held | skip phase held =>
    obtain rfl : _ = deviceId := by simpa [Run.claim?, Run.target?, phase] using claim
    exact LockTable.heldBy_iff.1 held
  | read phase | accept phase | abandon phase | restore phase | restored phase | unrestored phase
  | save phase =>
    have inside : run.isInside = true := by rw [Run.isInside, phase]
    exact (kept deviceId).inside_holds self (inside_of_task task inside claim)

namespace Underway

/-- The run inside has said what is under way. -/
theorem eq_of_inside (kept : activity.LocksKept) (underway : activity.Underway deviceId rest)
    {run : Run} (task : activity.tasks[self]? = some (.run run)) (inside : run.isInside = true)
    (claim : run.claim? = some deviceId) :
    ∃ said, rest = said.map (⟨self, deviceId, ·⟩) ∧
      run.Begun (activity.engine.records.get? deviceId)
        (activity.engine.book.previous? run.action) said := by
  have hself := inside_of_task task inside claim
  cases underway with
  | free nobody => exact absurd hself (nobody self)
  | @inside id run' said task' inside' claim' begun =>
    obtain rfl := (kept deviceId).inside_unique (inside_of_task task' inside' claim') hself
    obtain rfl : run' = run := by simpa [task'] using task
    exact ⟨said, rfl, begun⟩

/-- Nothing is under way while the holder of the lock has not gone in. -/
theorem eq_nil_of_head (kept : activity.LocksKept) (underway : activity.Underway deviceId rest)
    {run : Run} (task : activity.tasks[self]? = some (.run run))
    (head : (activity.locks.lock deviceId).line.head? = some self)
    (outside : run.isInside = false) : rest = [] := by
  cases underway with
  | free nobody => rfl
  | @inside id run' said task' inside claim begun =>
    have holds := (kept deviceId).inside_holds id (inside_of_task task' inside claim)
    obtain rfl := Option.some.inj (holds.symm.trans head)
    obtain rfl : run' = run := by simpa [task'] using task
    cases outside.symm.trans inside

/-- What has been said since the last visit, by the run that is at the device. -/
theorem exists_said (kept : activity.LocksKept) (underway : activity.Underway deviceId rest)
    {run : Run} (task : activity.tasks[self]? = some (.run run))
    (head : (activity.locks.lock deviceId).line.head? = some self)
    (claim : run.claim? = some deviceId) :
    ∃ said, rest = said.map (⟨self, deviceId, ·⟩) ∧ (run.isInside = false → said = []) ∧
      (run.isInside = true → run.Begun (activity.engine.records.get? deviceId)
        (activity.engine.book.previous? run.action) said) := by
  cases inside : run.isInside with
  | false =>
    exact ⟨[], underway.eq_nil_of_head kept task head inside, fun _ => rfl, (by cases ·)⟩
  | true =>
    obtain ⟨said, hrest, begun⟩ := underway.eq_of_inside kept task inside claim
    exact ⟨said, hrest, (by cases ·), fun _ => begun⟩

theorem of_begun {run : Run} {said : List Exchange}
    (task : activity.tasks[self]? = some (.run run)) (inside : run.isInside = true)
    (claim : run.claim? = some deviceId)
    (begun : run.Begun (activity.engine.records.get? deviceId)
      (activity.engine.book.previous? run.action) said)
    (h : said.map (⟨self, deviceId, ·⟩) = rest) : activity.Underway deviceId rest :=
  h ▸ .inside task inside claim begun

/-- What is under way goes on while the run inside stays as it is and nobody comes in. -/
theorem transfer (underway : activity.Underway deviceId rest)
    (record : next.engine.records.get? deviceId = activity.engine.records.get? deviceId)
    (stays : ∀ {id : Nat} {run : Run}, activity.tasks[id]? = some (.run run) →
      run.isInside = true → run.claim? = some deviceId →
      ∃ run' : Run, next.tasks[id]? = some (.run run') ∧ run'.phase = run.phase ∧
        run'.force = run.force ∧ run'.desired = run.desired ∧
        next.engine.book.previous? run'.action = activity.engine.book.previous? run.action)
    (newcomers : ∀ id, next.has Task.isInside id = true → next.claim? id = some deviceId →
      activity.has Task.isInside id = true ∧ activity.claim? id = some deviceId) :
    next.Underway deviceId rest := by
  cases underway with
  | free nobody => exact .free fun id h => nobody id (newcomers id h.1 h.2)
  | inside task inside claim begun =>
    obtain ⟨run', task', phase, force, desired, previous⟩ := stays task inside claim
    refine .inside task' (by simpa only [Run.isInside, phase] using inside)
      (by simpa only [Run.claim?, Run.target?, phase] using claim) ?_
    rw [record, previous]
    cases begun with
    | reading hp due => exact .reading (phase.trans hp) (by rwa [force, desired])
    | commanding hp due noted => exact .commanding (phase.trans hp) (by rwa [force, desired]) noted
    | restoring hp due refused before =>
      rw [← desired] at due ⊢
      exact .restoring (phase.trans hp) (by rwa [force]) refused before
    | saving hp => exact .saving (phase.trans hp)

end Underway

/-- A contact is made by the run that steps, with the device that it claims. -/
theorem contact?_eq_some {run : Run} {engine : Engine σ}
    {locks : LockTable} {contact : Contact}
    (h : run.contact? backend self engine locks = some contact) :
    contact.task = self ∧ run.claim? = some contact.deviceId := by
  unfold Run.contact? at h
  split at h <;> rename_i phase
  · split at h <;> cases h
    simp [Run.claim?, Run.target?, phase]
  all_goals cases h <;> simp [Run.claim?, Run.target?, phase]

theorem contacts_run {run : Run} (task : activity.tasks[self]? = some (.run run))
    (idle : run.pauses = 0) :
    activity.contacts backend self
      = (run.contact? backend self activity.engine activity.locks).toList := by
  simp [contacts, task, idle]

/-- The run that steps says nothing to a device that it does not claim. -/
theorem saidTo_contacts_ne {run : Run} (task : activity.tasks[self]? = some (.run run))
    (other : run.claim? ≠ some deviceId) :
    saidTo deviceId (activity.contacts backend self) = [] := by
  unfold contacts saidTo
  rw [task]
  dsimp only
  split
  · refine List.filter_eq_nil_iff.2 fun contact h => ?_
    have := (contact?_eq_some (Option.mem_toList.1 h)).2
    simp only [decide_eq_true_eq]
    rintro rfl
    exact other this
  · rfl

/-- The run that steps speaks to the device that it claims. -/
theorem saidTo_contacts_self {run : Run} (task : activity.tasks[self]? = some (.run run))
    (idle : run.pauses = 0) (claim : run.claim? = some deviceId) :
    saidTo deviceId (activity.contacts backend self)
      = (run.exchanges backend self activity.engine activity.locks).map (⟨self, deviceId, ·⟩) := by
  rw [contacts_run task idle, Run.exchanges]
  cases h : run.contact? backend self activity.engine activity.locks with
  | none => rfl
  | some contact =>
    obtain ⟨rfl, claim'⟩ := contact?_eq_some h
    obtain rfl : deviceId = contact.deviceId := Option.some.inj (claim.symm.trans claim')
    simp [saidTo]

/-- A change that leaves the runs and the devices alone; new runs have not begun. -/
structure Calm (activity next : Activity σ) : Prop where
  stays : ∀ {id : Nat} {run : Run}, activity.tasks[id]? = some (.run run) →
    next.tasks[id]? = some (.run run)
  newcomers : ∀ {id : Nat} {run : Run}, next.tasks[id]? = some (.run run) →
    run.isInside = true → activity.tasks[id]? = some (.run run)
  records : next.engine.records = activity.engine.records
  outside : next.engine.outside = activity.engine.outside
  book : activity.engine.book.Extends next.engine.book

namespace Calm

theorem append {fresh : List Task} (tasks : next.tasks = activity.tasks ++ fresh)
    (unbegun : ∀ task ∈ fresh, task.isInside = false)
    (records : next.engine.records = activity.engine.records)
    (outside : next.engine.outside = activity.engine.outside)
    (book : activity.engine.book.Extends next.engine.book) : activity.Calm next where
  stays {id run} task := by
    rw [tasks, List.getElem?_append_left (List.getElem?_eq_some_iff.1 task).1]
    exact task
  newcomers {id run} task inside := by
    rw [tasks] at task
    rcases Nat.lt_or_ge id activity.tasks.length with hid | hid
    · rwa [List.getElem?_append_left hid] at task
    · rw [List.getElem?_append_right hid] at task
      exact absurd inside (by simpa [Task.isInside] using unbegun _ (List.mem_of_getElem? task))
  records := records
  outside := outside
  book := book

theorem setDispatch {old new : Dispatch} (task : activity.tasks[self]? = some (.dispatch old))
    (tasks : next.tasks = activity.tasks.set self (.dispatch new))
    (records : next.engine.records = activity.engine.records)
    (outside : next.engine.outside = activity.engine.outside)
    (book : activity.engine.book.Extends next.engine.book) : activity.Calm next := by
  have hrun : ∀ (id : Nat) (run : Run), next.tasks[id]? = some (.run run)
      ↔ activity.tasks[id]? = some (.run run) := by
    intro id run
    rw [tasks, getElem?_set_task task]
    split
    · rename_i h
      simp [h, task]
    · rfl
  exact ⟨(hrun _ _).2, fun h _ => (hrun _ _).1 h, records, outside, book⟩

theorem trans {middle : Activity σ} (h : activity.Calm middle) (h' : middle.Calm next) :
    activity.Calm next :=
  ⟨fun task => h'.stays (h.stays task),
    fun task inside => h.newcomers (h'.newcomers task inside) inside, h'.records.trans h.records,
    h'.outside.trans h.outside, h.book.trans h'.book⟩

/-- A request changes the rules or starts a task, which is calm. -/
theorem submit (activity : Activity σ) (request : Request) :
    activity.Calm (activity.submit request) :=
  append rfl (fun _ ht => (Request.task?_unbegun ht).2.1) rfl rfl
    (RuleBook.extends_request _ _ request)

/-- A step of a dispatch is calm. -/
theorem of_dispatch {dispatch : Dispatch} (h : activity.Advances backend self next)
    (task : activity.tasks[self]? = some (.dispatch dispatch)) : activity.Calm next := by
  cases h with
  | pause run | run run =>
    rw [run] at task
    cases task
  | queue task => exact setDispatch task rfl rfl rfl (.refl _)
  | gather task => exact setDispatch task rfl rfl rfl (.refl _)
  | refuse task held observes =>
    exact setDispatch task rfl (Engine.records_observe observes) (Engine.outside_observe observes)
      (Engine.extends_observe observes)
  | @spread snapshot engine events slots runs task held observes fans =>
    have set : Calm activity { activity.put self (.dispatch ⟨snapshot, .gathering slots⟩) with
        engine } :=
      setDispatch task rfl (Engine.records_observe observes) (Engine.outside_observe observes)
        (Engine.extends_observe observes)
    exact set.trans (append rfl (fun t ht => (slotsOf_unbegun fans ht).2.1) rfl rfl (.refl _))

end Calm

/-- A dispatch says nothing to devices. -/
theorem contacts_dispatch {dispatch : Dispatch}
    (task : activity.tasks[self]? = some (.dispatch dispatch)) :
    activity.contacts backend self = [] := by
  simp [contacts, task]

namespace Serial

variable {initial : Engine σ} {log : List Contact} {visits : List Visit}

/-- A step of a run that claims another device, or none. -/
theorem proceed_other (serial : activity.Serial initial log deviceId visits rest)
    (assigned : activity.Assigned) {run : Run} {step : RunStep σ}
    (task : activity.tasks[self]? = some (.run run)) (idle : run.pauses = 0)
    (proceeds : run.Proceeds backend self activity.engine activity.locks step)
    (other : run.claim? ≠ some deviceId) :
    Serial initial (log ++ activity.contacts backend self)
      { activity.put self (.run step.run) with engine := step.engine, locks := step.locks }
      deviceId visits rest := by
  have hd : ∀ target, run.target? = some target → deviceId ≠ target.deviceId := by
    rintro target ht rfl
    exact other (by simp [Run.claim?, ht])
  refine serial.extend (by simp [saidTo_contacts_ne task other]) (proceeds.records_ne hd)
    (fun visit => Advances.made (.run task idle proceeds)) ?_
  refine serial.underway.transfer (proceeds.records_ne hd) (fun {id r} hr hi hc => ?_)
    fun id hi hc => ?_
  · -- a run inside at the device is another run, of another action
    have hid : id ≠ self := by
      rintro rfl
      obtain rfl : run = r := by simpa [task] using hr
      exact other hc
    refine ⟨r, by simp only [put, getElem?_set_task task, if_neg hid]; exact hr, rfl, rfl, rfl, ?_⟩
    by_cases ha : run.action = r.action
    · rcases proceeds.book_eq_or_isInside with hbook | inside
      · simp only [hbook]
      · obtain ⟨target, ht⟩ := Run.exists_target_of_isInside inside
        have hclaim : run.claim? = some target.deviceId := by simp [Run.claim?, ht]
        exact absurd (hclaim.trans (congrArg some (assigned.claim?_eq task hr ha hclaim hc))) other
    · exact proceeds.previous?_ne ha
  · rw [has_set task rfl] at hi
    rw [claim?_set task rfl] at hc
    split at hi
    · rename_i hid
      rw [if_pos hid] at hc
      exact absurd (proceeds.claim?_of_isInside hi hc) other
    · rename_i hid
      rw [if_neg hid] at hc
      exact ⟨hi, hc⟩

/-- With the holder of the lock gone, nobody is inside. -/
theorem underway_leave (kept : activity.LocksKept) {run run' : Run}
    (task : activity.tasks[self]? = some (.run run))
    (head : (activity.locks.lock deviceId).line.head? = some self)
    (tasks : next.tasks = activity.tasks.set self (.run run')) (gone : run'.claim? = none) :
    next.Underway deviceId [] := by
  refine .free fun id h => ?_
  rw [has_set task tasks, claim?_set task tasks] at h
  split at h
  · simp [Task.claim?, gone] at h
  · rename_i hid
    exact hid (Option.some.inj (((kept deviceId).inside_holds id h).symm.trans head))

/-- A step of the run at the device. -/
theorem proceed_self (serial : activity.Serial initial log deviceId visits rest)
    (kept : activity.LocksKept) (assigned : activity.Assigned) {run : Run} {step : RunStep σ}
    (task : activity.tasks[self]? = some (.run run)) (idle : run.pauses = 0)
    (proceeds : run.Proceeds backend self activity.engine activity.locks step)
    (claim : run.claim? = some deviceId) :
    ∃ visits' rest', Serial initial (log ++ activity.contacts backend self)
      { activity.put self (.run step.run) with engine := step.engine, locks := step.locks }
      deviceId visits' rest' := by
  have head := head_of_proceeds kept task proceeds claim
  obtain ⟨plan, hplan, -⟩ := assigned.carries task
  obtain ⟨action, known, -⟩ := Option.map_eq_some_iff.1 hplan
  obtain ⟨said, rfl, silent, begun⟩ := serial.underway.exists_said kept task head claim
  obtain ⟨target, claimed, rfl⟩ := Option.map_eq_some_iff.1 claim
  have made (visit : Visit) (h : activity.Made visit) := Advances.made (.run task idle proceeds) h
  have own : (activity.tasks.set self (.run step.run))[self]? = some (.run step.run) := by
    rw [getElem?_set_task task, if_pos rfl]
  have heard : said.map (⟨self, target.deviceId, ·⟩)
        ++ saidTo target.deviceId (activity.contacts backend self)
      = (said ++ run.exchanges backend self activity.engine activity.locks).map
        (⟨self, target.deviceId, ·⟩) := by
    rw [saidTo_contacts_self task idle claim, List.map_append]
  have stays (inside : step.run.isInside = true) : step.run.claim? = some target.deviceId := by
    obtain ⟨found, ht⟩ := Run.exists_target_of_isInside inside
    have claim' : step.run.claim? = some found.deviceId := by rw [Run.claim?, ht]; rfl
    exact claim'.trans ((proceeds.claim?_of_isInside inside claim').symm.trans claim)
  cases proceeds.recounts claimed known silent begun with
  | goesOn record begun =>
    refine ⟨visits, _, serial.extend rfl record made ?_⟩
    exact .of_begun own begun.isInside (stays begun.isInside) begun heard.symm
  | completes course whole follows record busy done onward =>
    have force : step.run.force = run.force := by rw [proceeds.run_eq]; rfl
    have desired : step.run.desired = run.desired := by rw [proceeds.run_eq]; rfl
    refine ⟨_, [], serial.complete ⟨self, run.force, run.desired, course⟩
      (heard.trans (congrArg _ whole)) follows record ?_ made
      ⟨step.run, own, done, force, desired⟩ ?_⟩
    · rintro ⟨r, hr, done'⟩
      obtain rfl : run = r := by simpa [task] using hr
      cases busy.symm.trans done'
    · rcases onward with gone | begun
      · exact underway_leave kept task head rfl gone
      · exact .of_begun own begun.isInside (stays begun.isInside) begun rfl
  | leaves silent record gone =>
    refine ⟨visits, [], serial.extend ?_ record made (underway_leave kept task head rfl gone)⟩
    rw [heard, silent]
    rfl

/-- A calm change keeps what was said and what goes on. -/
theorem calm (serial : activity.Serial initial log deviceId visits rest)
    (calm : activity.Calm next) : next.Serial initial log deviceId visits rest := by
  have record := congrArg (·.get? deviceId) calm.records
  rw [← List.append_nil log]
  refine serial.extend (by simp [saidTo]) record (fun visit made => ?_)
    (serial.underway.transfer record (fun {id run} task _ _ => ?_) fun id inside claim => ?_)
  · obtain ⟨run, task, rest⟩ := made
    exact ⟨run, calm.stays task, rest⟩
  · exact ⟨run, calm.stays task, rfl, rfl, rfl, calm.book.previous?_eq run.action⟩
  · obtain ⟨task, hid, inside⟩ := (Option.any_eq_true _ _).1 inside
    cases task with
    | dispatch dispatch => cases inside
    | run run =>
      have old := calm.newcomers hid inside
      exact ⟨by simpa [has, old] using inside, by simpa [Activity.claim?, old, hid] using claim⟩

/-- Every step keeps the account of what is said to a device. -/
theorem step (serial : activity.Serial initial log deviceId visits rest)
    (kept : activity.LocksKept) (assigned : activity.Assigned)
    (h : activity.Advances backend self next) :
    ∃ visits' rest', next.Serial initial (log ++ activity.contacts backend self) deviceId
      visits' rest' := by
  have dispatch {old : Dispatch} (task : activity.tasks[self]? = some (.dispatch old)) :
      next.Serial initial (log ++ activity.contacts backend self) deviceId visits rest := by
    rw [contacts_dispatch task, List.append_nil]
    exact serial.calm (.of_dispatch h task)
  cases id h with
  | @pause run pauses task busy =>
    refine ⟨visits, rest, serial.extend (by simp [contacts, task, busy, saidTo]) rfl
      (fun _ => h.made)
      (serial.underway.transfer rfl (fun {id r} hr _ _ => ?_) fun id inside claim => ?_)⟩
    · by_cases hid : id = self
      · obtain rfl : run = r := by simpa [hid, task] using hr
        exact ⟨{ run with pauses }, by rw [put, getElem?_set_task task, if_pos hid], rfl, rfl, rfl,
          rfl⟩
      · exact ⟨r, by rw [put, getElem?_set_task task, if_neg hid]; exact hr, rfl, rfl, rfl, rfl⟩
    · rw [has_set task rfl] at inside
      rw [claim?_set task rfl] at claim
      split at inside
      · rename_i hid
        rw [if_pos hid] at claim
        have outer : activity.tasks[id]? = some (.run run) := hid ▸ task
        exact ⟨by simp only [has, outer]; exact inside,
          by simp only [Activity.claim?, outer]; exact claim⟩
      · rename_i hid
        rw [if_neg hid] at claim
        exact ⟨inside, claim⟩
  | @run run step task idle proceeds =>
    by_cases claim : run.claim? = some deviceId
    · exact serial.proceed_self kept assigned task idle proceeds claim
    · exact ⟨visits, rest, serial.proceed_other assigned task idle proceeds claim⟩
  | queue task | gather task => exact ⟨visits, rest, dispatch task⟩
  | refuse task | spread task => exact ⟨visits, rest, dispatch task⟩

end Serial

-- ============================================================================
-- Reached activities
-- ============================================================================

namespace Reached

variable {initial : Engine σ} {log : List Contact}

/-- What was said to a device on the way to any reachable activity falls into visits. -/
theorem serial (reached : Reached backend initial log activity) (deviceId : String) :
    ∃ visits rest, activity.Serial initial log deviceId visits rest := by
  induction reached with
  | start empty =>
    exact ⟨[], [], rfl, trivial, rfl, by simp, by simp, .free (by simp [has])⟩
  | submit request reached ih =>
    obtain ⟨visits, rest, serial⟩ := ih
    exact ⟨visits, rest, serial.calm (.submit _ request)⟩
  | advance reached step ih =>
    obtain ⟨visits, rest, serial⟩ := ih
    exact serial.step reached.locksKept reached.assigned step.advances

end Reached

end Activity

end HomeAutomation
