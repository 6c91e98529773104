/-
  HomeAutomation.Proofs.Engine.Mirroring

  How the store of device states follows the records.  `Backend.noting` keeps
  every save when it ends.  On any run of the engine the states that a device
  accepted are those whose saves have ended, in the same order, followed by the
  one that is still being saved, if any.  So while nobody is at the device, the
  store holds what it keeps of the recorded state, provided no save for the
  device failed, and an engine that is given the records of the store decides
  like the one that filled it.  Whether a save fails has no other effect.
-/

import HomeAutomation.Proofs.Device.Mirror
import HomeAutomation.Proofs.Engine.Acknowledgement
import HomeAutomation.Proofs.Engine.Result

namespace HomeAutomation

variable {σ : Type}

-- ============================================================================
-- Noted saves
-- ============================================================================

/-- A save that has ended. -/
structure SaveNote where
  deviceId : String
  state : DeviceState
  stored : Bool

/-- A backend that also keeps the saves that ended, in their order. -/
def Backend.noting (backend : Backend σ) : Backend (σ × List SaveNote) where
  startCall call s := (((backend.startCall call s.1).1, s.2), (backend.startCall call s.1).2)
  read target s := (((backend.read target s.1).1, s.2), (backend.read target s.1).2)
  command target state s :=
    (((backend.command target state s.1).1, s.2), (backend.command target state s.1).2)
  startSave s := (((backend.startSave s.1).1, s.2), (backend.startSave s.1).2)
  save deviceId state s :=
    (((backend.save deviceId state s.1).1,
      s.2 ++ [⟨deviceId, state, (backend.save deviceId state s.1).2⟩]),
      (backend.save deviceId state s.1).2)

/-- The states whose saves for a device have ended. -/
def savedTo (deviceId : String) (notes : List SaveNote) : List DeviceState :=
  (notes.filter (·.deviceId = deviceId)).map (·.state)

/-- No save for a device has failed. -/
def AllStored (deviceId : String) (notes : List SaveNote) : Prop :=
  ∀ note ∈ notes, note.deviceId = deviceId → note.stored = true

theorem savedTo_append (deviceId : String) (notes more : List SaveNote) :
    savedTo deviceId (notes ++ more) = savedTo deviceId notes ++ savedTo deviceId more := by
  simp [savedTo]

-- ============================================================================
-- Steps of a run
-- ============================================================================

namespace Run

/-- The state that a run is saving, with its device. -/
def unsaved? (run : Run) : Option (String × DeviceState) :=
  match run.phase with
  | .saving target state _ => some (target.deviceId, state)
  | _ => none

theorem inHand_unsaved? : InHand unsaved? where
  inside {run deviceId state} holds := by
    unfold unsaved? at holds
    split at holds <;> cases holds
    simp [isInside, claim?, target?, *]
  resumes _ _ := rfl

/-- What a run has to save after a step is what its device accepted in the step. -/
theorem Proceeds.accepted_exchanges {backend : Backend σ} {self : Nat} {engine : Engine σ}
    {locks : LockTable} {run : Run} {step : RunStep σ}
    (h : run.Proceeds backend self engine locks step) :
    accepted ((run.exchanges backend self engine locks).filterMap Exchange.command?)
      = (step.run.unsaved?.map (·.2)).toList := by
  cases h with
  | skip phase held needless => simp only [exchanges, contact?, phase, held, needless]; rfl
  | begin phase held needed => simp only [exchanges, contact?, phase, held, needed]; rfl
  | accept phase answered =>
    simp only [exchanges, contact?, phase]
    exact accepted_of_isAccepted (CommandReply.failure?_eq_none_iff.1 answered) _
  | restored phase answered =>
    simp only [exchanges, contact?, phase]
    exact accepted_of_isAccepted (CommandReply.restoreFailure?_eq_none_iff.1 answered) _
  | abandon phase failed | restore phase failed =>
    simp only [exchanges, contact?, phase]
    exact accepted_of_refused (CommandReply.isAccepted_of_failure? failed) _
  | unrestored phase failed =>
    simp only [exchanges, contact?, phase]
    exact accepted_of_refused (CommandReply.isAccepted_of_restoreFailure? failed) _
  | unmapped phase | ask phase | read phase | save phase =>
    simp only [exchanges, contact?, phase]
    rfl

variable {backend : Backend σ} {self : Nat} {engine : Engine (σ × List SaveNote)}
  {locks : LockTable} {run : Run} {step : RunStep (σ × List SaveNote)}

/-- A step ends the save that the run is about, or it leaves the store alone. -/
theorem Proceeds.noted (h : run.Proceeds backend.noting self engine locks step) :
    (∃ deviceId state, run.unsaved? = some (deviceId, state) ∧ step.run.unsaved? = none ∧
        step.engine.outside = (backend.noting.save deviceId state engine.outside).1) ∨
      run.unsaved? = none ∧ step.engine.outside.2 = engine.outside.2 ∧
        ∀ mirror : backend.Mirror,
          mirror.states step.engine.outside.1 = mirror.states engine.outside.1 := by
  cases h with
  | @save target state result phase =>
    exact .inl ⟨target.deviceId, state, by simp [unsaved?, phase], rfl, outside_settle⟩
  | unmapped phase | ask phase | skip phase =>
    exact .inr ⟨by simp [unsaved?, phase], rfl, fun _ => rfl⟩
  | begin phase =>
    exact .inr ⟨by simp [unsaved?, phase], rfl, fun mirror => mirror.startCall ..⟩
  | read phase =>
    exact .inr ⟨by simp [unsaved?, phase], rfl,
      fun mirror => (mirror.startCall ..).trans (mirror.read ..)⟩
  | accept phase | restored phase =>
    exact .inr ⟨by simp [unsaved?, phase], rfl,
      fun mirror => (mirror.startSave _).trans (mirror.command ..)⟩
  | abandon phase | unrestored phase =>
    refine .inr ⟨by simp [unsaved?, phase], ?_, fun mirror => ?_⟩ <;>
      simp only [close, leave, outside_settle, Engine.outside_command]
    · rfl
    · exact mirror.command ..
  | restore phase =>
    exact .inr ⟨by simp [unsaved?, phase], rfl,
      fun mirror => (mirror.startCall ..).trans (mirror.command ..)⟩

end Run

-- ============================================================================
-- Saves in progress
-- ============================================================================

namespace Activity

variable {backend : Backend σ} {activity next : Activity (σ × List SaveNote)} {self : Nat}
  {deviceId : String} {log : List Contact}

/-- The states that a device accepted are those whose saves have ended and the one that is being
    saved. -/
def SavesKept (log : List Contact) (activity : Activity (σ × List SaveNote))
    (deviceId : String) : Prop :=
  ∃ states, activity.Held Run.unsaved? deviceId states ∧
    accepted (commandsTo deviceId log) = savedTo deviceId activity.engine.outside.2 ++ states

namespace SavesKept

/-- A calm change starts and ends no save. -/
theorem calm (kept : SavesKept log activity deviceId) (calm : activity.Calm next) :
    SavesKept log next deviceId := by
  obtain ⟨states, unsaved, balance⟩ := kept
  refine ⟨states, unsaved.calm Run.inHand_unsaved? calm, ?_⟩
  rw [calm.outside]
  exact balance

/-- A step of a run at another device, or at none. -/
theorem proceed_other (kept : SavesKept log activity deviceId) {run : Run}
    {step : RunStep (σ × List SaveNote)} (task : activity.tasks[self]? = some (.run run))
    (proceeds : run.Proceeds backend.noting self activity.engine activity.locks step)
    (other : run.claim? ≠ some deviceId) :
    SavesKept (log ++ activity.contacts backend.noting self)
      { activity.put self (.run step.run) with engine := step.engine, locks := step.locks }
      deviceId := by
  obtain ⟨states, unsaved, balance⟩ := kept
  have saved : savedTo deviceId step.engine.outside.2
      = savedTo deviceId activity.engine.outside.2 := by
    obtain ⟨device, state, h, -, ended⟩ | ⟨-, same, -⟩ := proceeds.noted
    · have hne : device ≠ deviceId := by
        rintro rfl
        exact other (Run.inHand_unsaved?.inside h).2
      rw [ended, Backend.noting]
      simp [savedTo, hne]
    · rw [same]
  have silent : commandsTo deviceId (activity.contacts backend.noting self) = [] := by
    rw [commandsTo, saidTo_contacts_ne task other, List.filterMap_nil]
  refine ⟨states, unsaved.proceed_other Run.inHand_unsaved? task proceeds other, ?_⟩
  rw [commandsTo_append, silent, List.append_nil, saved]
  exact balance

/-- A step of the run at the device ends its save, or starts one, or does neither. -/
theorem proceed_self (saves : SavesKept log activity deviceId) (kept : activity.LocksKept)
    {run : Run} {step : RunStep (σ × List SaveNote)}
    (task : activity.tasks[self]? = some (.run run)) (idle : run.pauses = 0)
    (proceeds : run.Proceeds backend.noting self activity.engine activity.locks step)
    (claim : run.claim? = some deviceId) :
    SavesKept (log ++ activity.contacts backend.noting self)
      { activity.put self (.run step.run) with engine := step.engine, locks := step.locks }
      deviceId := by
  obtain ⟨states, unsaved, balance⟩ := saves
  have before := unsaved.eq_of_claim Run.inHand_unsaved? kept task proceeds claim
  have saved : savedTo deviceId step.engine.outside.2
      = savedTo deviceId activity.engine.outside.2 ++ states := by
    obtain ⟨device, state, h, -, ended⟩ | ⟨h, same, -⟩ := proceeds.noted
    · obtain rfl : device = deviceId :=
        Option.some.inj ((Run.inHand_unsaved?.inside h).2.symm.trans claim)
      rw [before, h, ended, Backend.noting]
      simp [savedTo]
    · rw [before, h, same]
      simp
  have told : accepted (commandsTo deviceId (activity.contacts backend.noting self))
      = (step.run.unsaved?.map (·.2)).toList := by
    rw [commandsTo, saidTo_contacts_self task idle claim, List.filterMap_map]
    exact proceeds.accepted_exchanges
  refine ⟨_, Held.proceed_self Run.inHand_unsaved? kept task proceeds claim, ?_⟩
  rw [commandsTo_append, accepted_append, told, balance, saved]

theorem step (saves : SavesKept log activity deviceId) (kept : activity.LocksKept)
    (h : activity.Advances backend.noting self next) :
    SavesKept (log ++ activity.contacts backend.noting self) next deviceId := by
  have dispatch {old : Dispatch} (task : activity.tasks[self]? = some (.dispatch old)) :
      SavesKept (log ++ activity.contacts backend.noting self) next deviceId := by
    rw [contacts_dispatch task, List.append_nil]
    exact saves.calm (.of_dispatch h task)
  cases h with
  | @pause run pauses task busy =>
    obtain ⟨states, unsaved, balance⟩ := saves
    exact ⟨states, unsaved.pause Run.inHand_unsaved? task pauses,
      by simpa [contacts, task, busy, put] using balance⟩
  | @run run step task idle proceeds =>
    by_cases claim : run.claim? = some deviceId
    · exact saves.proceed_self kept task idle proceeds claim
    · exact saves.proceed_other task proceeds claim
  | queue task | gather task | refuse task | spread task => exact dispatch task

end SavesKept

-- ============================================================================
-- What the store holds
-- ============================================================================

/-- The store of an activity holds what it keeps of the state that was saved last for a device, or
    what it held before. -/
def Mirrored (mirror : backend.Mirror) (held : Option DeviceState)
    (outside : σ × List SaveNote) (deviceId : String) : Prop :=
  AllStored deviceId outside.2 →
    (mirror.states outside.1).get? deviceId
      = ((savedTo deviceId outside.2).getLast?.map mirror.kept).or held

variable {mirror : backend.Mirror} {held : Option DeviceState}

/-- A step of a run keeps the store up to date. -/
theorem Mirrored.proceed {engine : Engine (σ × List SaveNote)} {locks : LockTable} {run : Run}
    {step : RunStep (σ × List SaveNote)} (mirrored : Mirrored mirror held engine.outside deviceId)
    (proceeds : run.Proceeds backend.noting self engine locks step) :
    Mirrored mirror held step.engine.outside deviceId := by
  obtain ⟨device, state, -, -, ended⟩ | ⟨-, notes, states⟩ := proceeds.noted
  · rw [ended]
    intro stored
    have earlier : AllStored deviceId engine.outside.2 := fun note h =>
      stored note (List.mem_append_left _ h)
    change (mirror.states (backend.save device state engine.outside.1).1).get? deviceId
      = ((savedTo deviceId (engine.outside.2 ++ [_])).getLast?.map mirror.kept).or held
    rw [savedTo_append]
    by_cases hd : device = deviceId
    · subst hd
      have success : (backend.save device state engine.outside.1).2 = true :=
        stored _ (List.mem_append_right _ (List.mem_singleton_self _)) rfl
      rw [mirror.save_self success]
      simp [savedTo]
    · rw [mirror.save_ne _ _ (Ne.symm hd), mirrored earlier]
      simp [savedTo, hd]
  · intro stored
    rw [notes] at stored ⊢
    rw [states mirror]
    exact mirrored stored

namespace Reached

variable {initial : Engine (σ × List SaveNote)}

theorem savesKept (reached : Reached backend.noting initial log activity)
    (unnoted : initial.outside.2 = []) (deviceId : String) : SavesKept log activity deviceId := by
  induction reached with
  | start empty =>
    exact ⟨[], .nobody (by simp), by simp [unnoted, savedTo, commandsTo, saidTo, accepted]⟩
  | submit request reached ih => exact ih.calm (.submit _ request)
  | advance reached step ih => exact ih.step reached.locksKept step.advances

theorem mirrored (reached : Reached backend.noting initial log activity)
    (unnoted : initial.outside.2 = []) (mirror : backend.Mirror) (deviceId : String) :
    Mirrored mirror ((mirror.states initial.outside.1).get? deviceId) activity.engine.outside
      deviceId := by
  induction reached with
  | start empty => intro _; simp [unnoted, savedTo]
  | submit request reached ih => exact ih
  | @advance log activity next self reached step ih =>
    have advances := step.advances
    have dispatch {old : Dispatch} (task : activity.tasks[self]? = some (.dispatch old)) :
        next.engine.outside = activity.engine.outside := (Calm.of_dispatch advances task).outside
    cases advances with
    | pause => exact ih
    | run task idle proceeds => exact ih.proceed proceeds
    | queue task | gather task => exact ih
    | refuse task | spread task => exact dispatch task ▸ ih

/-- While nobody is at a device, all that it accepted has been saved. -/
theorem saved_of_isVacant (reached : Reached backend.noting initial log activity)
    (unnoted : initial.outside.2 = []) (vacant : activity.IsVacant deviceId) :
    accepted (commandsTo deviceId log) = savedTo deviceId activity.engine.outside.2 := by
  obtain ⟨states, unsaved, balance⟩ := reached.savesKept unnoted deviceId
  cases unsaved with
  | nobody => exact balance.trans (List.append_nil _)
  | holder task holds =>
    obtain ⟨inside, claim⟩ := Run.inHand_unsaved?.inside holds
    exact absurd claim (vacant task inside)

/-- The store of an activity in which nobody is at a device, if it agreed with the records at the
    start and no save for the device failed. -/
theorem states_of_isVacant (reached : Reached backend.noting initial log activity)
    (unnoted : initial.outside.2 = []) (mirror : backend.Mirror)
    (agree : (mirror.states initial.outside.1).get? deviceId = initial.records.get? deviceId)
    (stored : AllStored deviceId activity.engine.outside.2)
    (vacant : activity.IsVacant deviceId) :
    (mirror.states activity.engine.outside.1).get? deviceId
      = ((acknowledged? (commandsTo deviceId log)).map mirror.kept).or
          (initial.records.get? deviceId) := by
  rw [reached.mirrored unnoted mirror deviceId stored, agree, acknowledged?,
    reached.saved_of_isVacant unnoted vacant]

end Reached

/-- The engine with the records that the store holds, as it is started with. -/
def reseeded (activity : Activity (σ × List SaveNote)) (mirror : backend.Mirror) :
    Engine (σ × List SaveNote) :=
  { activity.engine with records := mirror.states activity.engine.outside.1 }

/-- What was kept of a record is like the record. -/
theorem alike_of_kept {mirror : backend.Mirror} {acknowledged initial : Option DeviceState}
    {state : DeviceState} (recorded : acknowledged.or initial = some state)
    (plain : state.IsPlain) :
    ∃ held, (acknowledged.map mirror.kept).or initial = some held ∧ held.Alike state := by
  cases acknowledged with
  | none => exact ⟨state, recorded, fun _ => rfl⟩
  | some sent =>
    obtain rfl : sent = state := by simpa using recorded
    exact ⟨mirror.kept sent, rfl, mirror.alike plain⟩

/-- Records and store on any run of the engine.  The record of a device is the state of the last
    command that it accepted, or the initial record.  If the store agreed with the records at the
    start and no save for the device failed, then while the lock of the device is free the store
    holds what it keeps of that state: a plain state up to equality, so that an engine with the
    records of the store leaves the device alone in the same cases.  Saving has no part in how an
    execution ends: one that fails has no device or had its command refused, and the end of a save,
    successful or not, changes neither the result nor any record. -/
theorem Reached.records_mirrored {initial : Engine (σ × List SaveNote)}
    (reached : Reached backend.noting initial log activity) (unnoted : initial.outside.2 = [])
    (mirror : backend.Mirror) (deviceId : String) :
    activity.engine.records.get? deviceId
      = (acknowledged? (commandsTo deviceId log)).or (initial.records.get? deviceId) ∧
    ((mirror.states initial.outside.1).get? deviceId = initial.records.get? deviceId →
      AllStored deviceId activity.engine.outside.2 →
      (activity.locks.lock deviceId).line = [] →
      (mirror.states activity.engine.outside.1).get? deviceId
          = ((acknowledged? (commandsTo deviceId log)).map mirror.kept).or
              (initial.records.get? deviceId) ∧
        (∀ state, activity.engine.records.get? deviceId = some state → state.IsPlain →
          ∃ held, (mirror.states activity.engine.outside.1).get? deviceId = some held ∧
            held.same state = true) ∧
        ((∀ state, activity.engine.records.get? deviceId = some state → state.IsPlain) →
          ∀ desired, (activity.reseeded mirror).isChangeNeeded deviceId desired
            = activity.engine.isChangeNeeded deviceId desired)) ∧
    (∀ {id : Nat} {e : ExecuteError}, activity.runResult? id = some (.error e) →
      (∃ cause, e = .notFound cause) ∨ ∃ device state reply,
        (⟨id, device, .command state reply⟩ : Contact) ∈ log ∧ reply.isAccepted = false) ∧
    (∀ {self : Nat} {next : Activity (σ × List SaveNote)} {run : Run} {target : DeviceTarget}
        {state : DeviceState} {result : Except ExecuteError ExecuteResult},
      activity.tasks[self]? = some (.run run) → run.phase = .saving target state result →
      run.pauses = 0 → activity.Step backend.noting self next →
      next.runResult? self = some result ∧ next.engine.records = activity.engine.records) := by
  have record := reached.record_eq deviceId
  refine ⟨record, fun agree stored free => ?_, fun {id e} ended => ?_,
    fun {self next run target state result} task phase idle step => ?_⟩
  · have held := reached.states_of_isVacant unnoted mirror agree stored
      (reached.locksKept.isVacant free)
    refine ⟨held, fun state recorded plain => ?_, fun plain desired => ?_⟩
    · obtain ⟨kept, hkept, alike⟩ := alike_of_kept (record.symm.trans recorded) plain
      exact ⟨kept, held.trans hkept, (alike state).trans plain.same_self⟩
    · rw [Engine.isChangeNeeded_eq, Engine.isChangeNeeded_eq]
      change (!desired.isRecorded ((mirror.states activity.engine.outside.1).get? deviceId)) = _
      cases recorded : activity.engine.records.get? deviceId with
      | none =>
        rw [recorded] at record
        obtain ⟨unheard, unrecorded⟩ := Option.or_eq_none_iff.1 record.symm
        rw [held, unheard, unrecorded]
        rfl
      | some state =>
        obtain ⟨kept, hkept, alike⟩ :=
          alike_of_kept (record.symm.trans recorded) (plain state recorded)
        rw [held, hkept]
        exact congrArg (!·) (alike desired)
  · obtain ⟨run, task, phase, earned⟩ := reached.earned ended
    cases earned with
    | unmapped => exact .inl ⟨_, rfl⟩
    | commanded commanded =>
      cases commanded with
      | refused told failed =>
        exact .inr ⟨_, _, _, told, CommandReply.isAccepted_of_failure? failed⟩
  · cases step.advances with
    | @pause other pauses own busy =>
      obtain rfl : run = other := by simpa [task] using own
      omega
    | @run other step own _ proceeds =>
      obtain rfl : run = other := by simpa [task] using own
      cases proceeds with
      | save phase' =>
        cases phase.symm.trans phase'
        refine ⟨?_, Run.records_settle⟩
        simp [runResult?, put, getElem?_set_task task, Run.close, Run.leave, Run.enter,
          Run.result?]
      | _ => simp_all
    | queue own | refuse own | spread own | gather own => cases task.symm.trans own

/-- A hall whose fan is on at a speed that it reports, and refuses the next command; a rule that
    switches the fan off is carried out by hand. -/
def fanHall (speed : Json) : Activity (Site × List SaveNote) :=
  let engine : Engine (Site × List SaveNote) :=
    { directory := .ofRooms [⟨"hall", .null, [⟨"fan", .null, "fan", "hall"⟩]⟩]
      range := ⟨16, 30⟩
      outside := ({ control := .simulated
                      { states := [("fan", { power := true, mode := some speed })], refusals := 1 }
                    database := Database.init {}
                    network := fun _ => .unreachable "no route to host" }, []) }
  (({ engine } : Activity _).submit (.register "if motion in hall then fan off" none)).submit
    (.execute 0 false)

/-- Whether saves for the fan succeeded, its lock, its record and what the database holds of it. -/
def fanView (activity : Activity (Site × List SaveNote)) :
    List Bool × List Nat × Option DeviceState × Option DeviceState :=
  (activity.engine.outside.2.map (·.stored), (activity.locks.lock "fan").line,
    activity.engine.records.get? "fan",
    (Site.mirror.states activity.engine.outside.1).get? "fan")

theorem exists_reached_fanHall {speed : Json} {record stored : Option DeviceState}
    (view : ((fanHall speed).follow Site.backend.noting [0, 0, 0, 0, 0, 0, 0]).map
        (fun f => fanView f.2) = some ([true], [], record, stored)) :
    ∃ (initial : Engine (Site × List SaveNote)) (log : List Contact)
        (activity : Activity (Site × List SaveNote)),
      Reached Site.backend.noting initial log activity ∧ initial.outside.2 = [] ∧
        (Site.mirror.states initial.outside.1).get? "fan" = initial.records.get? "fan" ∧
        AllStored "fan" activity.engine.outside.2 ∧ (activity.locks.lock "fan").line = [] ∧
        activity.engine.records.get? "fan" = record ∧
        (Site.mirror.states activity.engine.outside.1).get? "fan" = stored := by
  obtain ⟨⟨log, activity⟩, followed, view⟩ := Option.map_eq_some_iff.1 view
  obtain ⟨saved, view⟩ := Prod.mk.inj view
  obtain ⟨free, view⟩ := Prod.mk.inj view
  obtain ⟨recorded, held⟩ := Prod.mk.inj view
  have allStored : AllStored "fan" activity.engine.outside.2 := by
    intro note h _
    have among : note.stored ∈ [true] := saved ▸ List.mem_map_of_mem h
    simpa using among
  exact ⟨_, log, activity, (((Reached.start rfl).submit _).submit _).steps (.of_follow followed),
    rfl, rfl, allStored, free, recorded, held⟩

/-- A fan that reports its speed as a number is given it back after a command that failed, and the
    database holds the speed as a text: with its records the fan would be left alone by a rule for
    which the engine has to command it. -/
theorem unlike_fanHall : ∃ (initial : Engine (Site × List SaveNote)) (log : List Contact)
      (activity : Activity (Site × List SaveNote)) (state held desired : DeviceState),
    Reached Site.backend.noting initial log activity ∧ initial.outside.2 = [] ∧
      (Site.mirror.states initial.outside.1).get? "fan" = initial.records.get? "fan" ∧
      AllStored "fan" activity.engine.outside.2 ∧ (activity.locks.lock "fan").line = [] ∧
      activity.engine.records.get? "fan" = some state ∧
      (Site.mirror.states activity.engine.outside.1).get? "fan" = some held ∧
      held.same state = false ∧
      (activity.reseeded Site.mirror).isChangeNeeded "fan" desired = false ∧
      activity.engine.isChangeNeeded "fan" desired = true := by
  have view : ((fanHall (.integer 5)).follow Site.backend.noting [0, 0, 0, 0, 0, 0, 0]).map
        (fun f => fanView f.2)
      = some ([true], [], some { power := true, mode := some (.integer 5) },
          some { power := true, mode := some (.text "5") }) := rfl
  obtain ⟨initial, log, activity, reached, unnoted, agree, stored, free, recorded, held⟩ :=
    exists_reached_fanHall view
  refine ⟨initial, log, activity, _, _, { power := true, mode := some (.text "5") }, reached,
    unnoted, agree, stored, free, recorded, held, by decide +kernel, ?_, ?_⟩
  · rw [Engine.isChangeNeeded_eq]
    change (!DeviceState.isRecorded ((Site.mirror.states activity.engine.outside.1).get? "fan") _) = _
    rw [held]
    decide +kernel
  · rw [Engine.isChangeNeeded_eq, recorded]
    decide +kernel

/-- A fan that names its speed is given it back, and the database holds the same. -/
theorem mirrored_fanHall : ∃ (initial : Engine (Site × List SaveNote)) (log : List Contact)
      (activity : Activity (Site × List SaveNote)) (state held : DeviceState),
    Reached Site.backend.noting initial log activity ∧
      activity.engine.records.get? "fan" = some state ∧
      (Site.mirror.states activity.engine.outside.1).get? "fan" = some held ∧
      held.same state = true ∧
      ∀ desired, (activity.reseeded Site.mirror).isChangeNeeded "fan" desired
        = activity.engine.isChangeNeeded "fan" desired := by
  have view : ((fanHall (.text "high")).follow Site.backend.noting [0, 0, 0, 0, 0, 0, 0]).map
        (fun f => fanView f.2)
      = some ([true], [], some { power := true, mode := some (.text "high") },
          some { power := true, mode := some (.text "high") }) := rfl
  obtain ⟨initial, log, activity, reached, unnoted, agree, stored, free, recorded, -⟩ :=
    exists_reached_fanHall view
  have plain : DeviceState.IsPlain { power := true, mode := some (.text "high") } :=
    ⟨by simp, .inr ⟨_, rfl⟩⟩
  obtain ⟨-, mirrored, -⟩ := reached.records_mirrored unnoted Site.mirror "fan"
  obtain ⟨-, alike, reseeds⟩ := mirrored agree stored free
  obtain ⟨held, found, same⟩ := alike _ recorded plain
  refine ⟨initial, log, activity, _, held, reached, recorded, found, same, reseeds ?_⟩
  intro state h
  obtain rfl := Option.some.inj (recorded.symm.trans h)
  exact plain

end Activity

end HomeAutomation
