/-
  HomeAutomation.Proofs.Engine.Execution

  The contract of carrying out an action.  `Backend.journaling` keeps whatever
  a backend is asked and answers; `Execution` says which journals there are,
  with the records and the result that belong to each.  The backend may answer
  in any way: a device may tell its state, not know it or fail, a command may
  be accepted, rejected or break, and a state may be saved or not.
-/

import HomeAutomation.Device.House
import HomeAutomation.Proofs.Engine.Correspondence
import HomeAutomation.Proofs.Engine.Solo
import Mathlib.Logic.Function.Basic

namespace HomeAutomation

variable {σ : Type}

-- ============================================================================
-- Journals
-- ============================================================================

/-- What a backend is asked or answers. -/
inductive JournalEntry
  /-- A call has been started. -/
  | started (call : DeviceCall)
  | read (target : DeviceTarget) (reply : ReadReply)
  | commanded (target : DeviceTarget) (state : DeviceState) (reply : CommandReply)
  /-- Saving a state has been started. -/
  | saving
  | saved (deviceId : String) (state : DeviceState) (stored : Bool)

/-- What a backend is asked and answers, in order. -/
abbrev Journal := List JournalEntry

namespace Journal

/-- A device is read. -/
def reading (target : DeviceTarget) (reply : ReadReply) : Journal :=
  [.started (.read target), .read target reply]

/-- A device is commanded. -/
def commanding (target : DeviceTarget) (state : DeviceState) (reply : CommandReply) :
    Journal :=
  [.started (.command target state), .commanded target state reply]

/-- A state is saved, if the store takes it. -/
def keeping (deviceId : String) (state : DeviceState) (stored : Bool) : Journal :=
  [.saving, .saved deviceId state stored]

end Journal

/-- A backend that also keeps a journal. -/
def Backend.journaling (backend : Backend σ) : Backend (σ × Journal) where
  startCall call s :=
    (((backend.startCall call s.1).1, s.2 ++ [.started call]), (backend.startCall call s.1).2)
  read target s :=
    (((backend.read target s.1).1, s.2 ++ [.read target (backend.read target s.1).2]),
      (backend.read target s.1).2)
  command target state s :=
    (((backend.command target state s.1).1,
        s.2 ++ [.commanded target state (backend.command target state s.1).2]),
      (backend.command target state s.1).2)
  startSave s := (((backend.startSave s.1).1, s.2 ++ [.saving]), (backend.startSave s.1).2)
  save deviceId state s :=
    (((backend.save deviceId state s.1).1,
        s.2 ++ [.saved deviceId state (backend.save deviceId state s.1).2]),
      (backend.save deviceId state s.1).2)

-- ============================================================================
-- Failures
-- ============================================================================

namespace CommandReply

variable {deviceId : String} {reply : CommandReply}

/-- A reply to a command means a failure.  A control that fails gives its reason and no status; a
    device that rejects the command gives its status and, as far as it has one, its message. -/
inductive Fails (deviceId : String) : CommandReply → CallError → Prop
  | broken (reason : String) : Fails deviceId (.failed reason)
      { message := "Command to " ++ deviceId ++ " failed: " ++ reason, deviceId, status := none
        raised := true }
  | rejected {response : ControlResponse} (refused : response.success = false) :
      Fails deviceId (.answered response)
        { message := response.reason deviceId, deviceId, status := some response.status
          raised := false }

theorem fails_of_failure? {failure : CallError} (h : reply.failure? deviceId = some failure) :
    reply.Fails deviceId failure := by
  cases reply with
  | failed reason =>
    cases h
    exact .broken reason
  | answered response =>
    rw [failure?] at h
    split at h
    · cases h
    · rename_i refused
      cases h
      exact .rejected (Bool.eq_false_iff.2 refused)

/-- A reply to a restoring command means that the state was not restored. -/
inductive FailsToRestore (deviceId : String) : CommandReply → String → Prop
  | broken (reason : String) : FailsToRestore deviceId (.failed reason) reason
  | rejected {response : ControlResponse} (refused : response.success = false) :
      FailsToRestore deviceId (.answered response)
        ("Rollback of " ++ deviceId ++ " rejected (status=" ++ toString response.status ++ "): "
          ++ response.message.label)

theorem failsToRestore_of_restoreFailure? {reason : String}
    (h : reply.restoreFailure? deviceId = some reason) : reply.FailsToRestore deviceId reason := by
  cases reply with
  | failed reason =>
    cases h
    exact .broken _
  | answered response =>
    rw [restoreFailure?] at h
    split at h
    · cases h
    · rename_i refused
      cases h
      exact .rejected (Bool.eq_false_iff.2 refused)

end CommandReply

-- ============================================================================
-- The contract
-- ============================================================================

/-- What is recorded of each device. -/
abbrev Recorded := String → Option DeviceState

theorem Table.get?_set_eq_update {β : Type} (table : Table β) (name : String) (value : β) :
    Table.get? (table.set name value) = Function.update table.get? name (some value) := by
  funext other
  by_cases h : other = name
  · subst h
    rw [get?_set_self, Function.update_self]
  · rw [get?_set_ne _ _ h, Function.update_of_ne h]

/-- What an attempt to restore a state comes to.  Without a state there is no call.  Otherwise the
    device is commanded once, and the state is recorded exactly if the device accepts it. -/
inductive Restoring (target : DeviceTarget) (records : Recorded) :
    Option DeviceState → Journal → Recorded → RollbackOutcome → Prop
  | notAttempted : Restoring target records none [] records .notAttempted
  | restored {state : DeviceState} {reply : CommandReply} {stored : Bool}
      (accepted : reply.isAccepted = true) :
      Restoring target records (some state)
        (Journal.commanding target state reply ++ Journal.keeping target.deviceId state stored)
        (Function.update records target.deviceId (some state)) (.restored state)
  | failed {state : DeviceState} {reply : CommandReply} {reason : String}
      (fails : reply.FailsToRestore target.deviceId reason) :
      Restoring target records (some state) (Journal.commanding target state reply) records
        (.failed state reason)

/-- What carrying out an action comes to: the journal, the records after it and the result. -/
inductive Execution (directory : Directory) (a : Action) (force : Bool) (records : Recorded) :
    Journal → Recorded → Except ExecuteError ExecuteResult → Prop
  | unmapped {e : DeviceNotFound}
      (unknown : directory.resolve a.spec.location a.spec.device.name = .error e) :
      Execution directory a force records [] records (.error (.notFound e))
  /-- The device is recorded to be in the desired state. -/
  | unchanged {target : DeviceTarget}
      (known : directory.resolve a.spec.location a.spec.device.name = .ok target)
      (needless : Visit.isDue force a.desired (records target.deviceId) = false) :
      Execution directory a force records [] records
        (.ok (.unchanged target.deviceId a.desired))
  | changed {target : DeviceTarget} {reply : ReadReply} {answer : CommandReply} {stored : Bool}
      (known : directory.resolve a.spec.location a.spec.device.name = .ok target)
      (due : Visit.isDue force a.desired (records target.deviceId) = true)
      (accepted : answer.isAccepted = true) :
      Execution directory a force records
        (Journal.reading target reply ++ Journal.commanding target a.desired answer
          ++ Journal.keeping target.deviceId a.desired stored)
        (Function.update records target.deviceId (some a.desired))
        (.ok (.changed target a.spec.device a.spec.location a.desired))
  /-- The command fails; the state before is the one that the device told, or else the recorded
      one. -/
  | failed {target : DeviceTarget} {reply : ReadReply} {answer : CommandReply}
      {failure : CallError} {attempt : Journal} {after : Recorded}
      {outcome : RollbackOutcome}
      (known : directory.resolve a.spec.location a.spec.device.name = .ok target)
      (due : Visit.isDue force a.desired (records target.deviceId) = true)
      (fails : answer.Fails target.deviceId failure)
      (restoring : Restoring target records (reply.stateBefore (records target.deviceId)) attempt
        after outcome) :
      Execution directory a force records
        (Journal.reading target reply ++ Journal.commanding target a.desired answer ++ attempt)
        after (.error (.call { failure with rollback := some outcome }))

namespace Sequential

variable (engine : Engine (σ × Journal)) (backend : Backend σ) (target : DeviceTarget)

-- ============================================================================
-- One call after the other
-- ============================================================================

theorem journal_readState : ∃ reply : ReadReply,
    (readState engine backend.journaling target).1.outside.2
      = engine.outside.2 ++ Journal.reading target reply ∧
    (readState engine backend.journaling target).2
      = reply.stateBefore (engine.records.get? target.deviceId) :=
  ⟨_, List.append_assoc .., Engine.readState_eq ..⟩

theorem journal_command (state : DeviceState) :
    (command engine backend.journaling target state).1.outside.2
      = engine.outside.2
          ++ Journal.commanding target state (command engine backend.journaling target state).2 :=
  List.append_assoc ..

theorem journal_accept (deviceId : String) (state : DeviceState) : ∃ stored,
    (accept engine backend.journaling deviceId state).outside.2
      = engine.outside.2 ++ Journal.keeping deviceId state stored :=
  ⟨_, List.append_assoc ..⟩

theorem get?_accept (deviceId : String) (state : DeviceState) :
    (accept engine backend.journaling deviceId state).records.get?
      = Function.update engine.records.get? deviceId (some state) :=
  Table.get?_set_eq_update ..

/-- Restoring keeps to its contract. -/
theorem restoring_rollback (action : Nat) : ∃ entries,
    (rollback engine backend.journaling action target).1.outside.2
      = engine.outside.2 ++ entries ∧
    Restoring target engine.records.get? (engine.book.previous? action) entries
      (rollback engine backend.journaling action target).1.records.get?
      (rollback engine backend.journaling action target).2 := by
  unfold rollback
  cases engine.book.previous? action with
  | none => exact ⟨[], (List.append_nil _).symm, .notAttempted⟩
  | some state =>
    have called := journal_command engine backend target state
    cases answered : (command engine backend.journaling target state).2.restoreFailure?
        target.deviceId with
    | none =>
      obtain ⟨stored, kept⟩ := journal_accept
        (command engine backend.journaling target state).1 backend target.deviceId state
      have recorded := get?_accept
        (command engine backend.journaling target state).1 backend target.deviceId state
      simp only [answered]
      refine ⟨_, by rw [kept, called, List.append_assoc], ?_⟩
      rw [recorded]
      exact .restored (CommandReply.restoreFailure?_eq_none_iff.1 answered)
    | some reason =>
      simp only [answered]
      exact ⟨_, called, .failed (CommandReply.failsToRestore_of_restoreFailure? answered)⟩

/-- Reads a device, notes its state and commands it. -/
def send (engine : Engine σ) (backend : Backend σ) (action : Nat) (target : DeviceTarget)
    (state : DeviceState) : Engine σ × CommandReply :=
  let (engine, previous) := readState engine backend target
  command (engine.setPrevious action previous) backend target state

theorem journal_send {id : Nat} {a : Action} (known : engine.book.action? id = some a)
    (state : DeviceState) : ∃ reply : ReadReply,
    (send engine backend.journaling id target state).1.outside.2
      = engine.outside.2 ++ (Journal.reading target reply ++ Journal.commanding target state
          (send engine backend.journaling id target state).2) ∧
    (send engine backend.journaling id target state).1.book.previous? id
      = reply.stateBefore (engine.records.get? target.deviceId) := by
  obtain ⟨reply, told, before⟩ := journal_readState engine backend target
  refine ⟨reply, ?_, ?_⟩
  · rw [← List.append_assoc, ← told]
    exact journal_command _ backend target state
  · rw [← before]
    exact RuleBook.previous?_setPrevious_self known _

/-- A command that does not fail is accepted. -/
theorem change_of_accepted {backend : Backend σ} {engine : Engine σ} {id : Nat} {a : Action}
    (accepted : (send engine backend id target a.desired).2.failure? target.deviceId = none) :
    change engine backend id a target
      = (((accept (send engine backend id target a.desired).1 backend target.deviceId
            a.desired).setPrevious id none).markExecuted id,
          .ok (.changed target a.spec.device a.spec.location a.desired)) := by
  unfold send at accepted
  unfold change
  dsimp only at accepted ⊢
  rw [accepted]
  rfl

/-- If a command fails, the state before is restored. -/
theorem change_of_failed {backend : Backend σ} {engine : Engine σ} {id : Nat} {a : Action}
    {failure : CallError} (failed :
      (send engine backend id target a.desired).2.failure? target.deviceId = some failure) :
    change engine backend id a target
      = ((rollback (send engine backend id target a.desired).1 backend id target).1.setPrevious id
            none,
          .error (.call { failure with
            rollback :=
              some (rollback (send engine backend id target a.desired).1 backend id target).2 })) := by
  unfold send at failed
  unfold change
  dsimp only at failed ⊢
  rw [failed]
  rfl

/-- Changing a device that it is due to change keeps to the contract. -/
theorem execution_change {id : Nat} {a : Action} (action : engine.book.action? id = some a)
    {force : Bool}
    (known : engine.directory.resolve a.spec.location a.spec.device.name = .ok target)
    (due : Visit.isDue force a.desired (engine.records.get? target.deviceId) = true) :
    ∃ entries, entries ≠ [] ∧
      (change engine backend.journaling id a target).1.outside.2 = engine.outside.2 ++ entries ∧
      Execution engine.directory a force engine.records.get? entries
        (change engine backend.journaling id a target).1.records.get?
        (change engine backend.journaling id a target).2 := by
  let sent := send engine backend.journaling id target a.desired
  obtain ⟨reply, called, before⟩ := journal_send engine backend target action a.desired
  cases answered : sent.2.failure? target.deviceId with
  | none =>
    obtain ⟨stored, kept⟩ := journal_accept sent.1 backend target.deviceId a.desired
    have recorded := get?_accept sent.1 backend target.deviceId a.desired
    rw [change_of_accepted target answered]
    refine ⟨_, ?_, kept.trans (by rw [called, List.append_assoc]), ?_⟩
    · simp [Journal.reading]
    · have accepted := CommandReply.failure?_eq_none_iff.1 answered
      exact recorded ▸ Execution.changed known due accepted
  | some failure =>
    obtain ⟨attempt, tried, restoring⟩ := restoring_rollback sent.1 backend target id
    rw [change_of_failed target answered]
    refine ⟨_, ?_, tried.trans (by rw [called, List.append_assoc]), ?_⟩
    · simp [Journal.reading]
    · rw [before] at restoring
      exact .failed known due (CommandReply.fails_of_failure? answered) restoring

/-- Carrying an action out keeps to the contract. -/
theorem execution_execute {id : Nat} {a : Action} (action : engine.book.action? id = some a)
    (force : Bool) :
    ∃ entries,
      (execute engine backend.journaling id a force).1.outside.2 = engine.outside.2 ++ entries ∧
      Execution engine.directory a force engine.records.get? entries
        (execute engine backend.journaling id a force).1.records.get?
        (execute engine backend.journaling id a force).2 ∧
      (entries = [] → (execute engine backend.journaling id a force).1 = engine) := by
  unfold execute
  cases resolved : engine.directory.resolve a.spec.location a.spec.device.name with
  | error e => exact ⟨[], (List.append_nil _).symm, .unmapped resolved, fun _ => rfl⟩
  | ok target =>
    dsimp only
    rw [Engine.isChangeNeeded_eq]
    cases due : force || !a.desired.isRecorded (engine.records.get? target.deviceId) with
    | false => exact ⟨[], (List.append_nil _).symm, .unchanged resolved due, fun _ => rfl⟩
    | true =>
      obtain ⟨entries, called, journal, execution⟩ :=
        execution_change engine backend target action resolved due
      exact ⟨entries, journal, execution, fun silent => absurd silent called⟩

end Sequential

-- ============================================================================
-- Carrying an action out
-- ============================================================================

namespace Run.Alone

variable {backend : Backend σ} {engine middle : Engine σ} {run before : Run}

theorem rules_eq (alone : Alone backend engine run middle before) :
    middle.book.rules = engine.book.rules := by
  induction alone with
  | start => rfl
  | next _ _ proceeds ih => rw [proceeds.rules_eq, ih]

theorem range_eq (alone : Alone backend engine run middle before) :
    middle.range = engine.range := by
  induction alone with
  | start => rfl
  | next _ _ proceeds ih => rw [proceeds.range_eq, ih]

end Run.Alone

namespace Engine

/-- The contract of carrying an action out, for any directory, any records and any behavior of the
    devices and the store, however often calls suspend.  What is asked and answered, the records
    afterwards and the result are those of an `Execution`; where nothing is asked, nothing changes
    at all, and in any case the home, the rules and the events stay as they are and the actions
    stay for what they were. -/
theorem execute_contract (engine : Engine (σ × Journal)) (backend : Backend σ) {id : Nat}
    {a : Action} (known : engine.book.action? id = some a) (force : Bool) :
    ∃ entries,
      (engine.execute backend.journaling id a force).1.outside.2
        = engine.outside.2 ++ entries ∧
      Execution engine.directory a force engine.records.get? entries
        (engine.execute backend.journaling id a force).1.records.get?
        (engine.execute backend.journaling id a force).2 ∧
      (entries = [] → (engine.execute backend.journaling id a force).1 = engine) ∧
      engine.Alike (engine.execute backend.journaling id a force).1 ∧
      (engine.execute backend.journaling id a force).1.range = engine.range ∧
      (engine.execute backend.journaling id a force).1.book.rules = engine.book.rules := by
  have alone : (Run.ofAction id a force none).Alone backend.journaling engine
      (Sequential.execute engine backend.journaling id a force).1 _ :=
    .execute ⟨rfl, rfl, rfl⟩ rfl
  obtain ⟨entries, journal, execution, still⟩ :=
    Sequential.execution_execute engine backend known force
  rw [execute_eq]
  exact ⟨entries, journal, execution, still, .of_alone alone, alone.range_eq, alone.rules_eq⟩

end Engine

/-- The rule's part in lighting a hall. -/
def lightHall : Action :=
  { ruleId := "on", spec := { device := .light, location := "hall", power := true }
    params := .light none none }

/-- A hall whose lamp is recorded to be off.  It will not tell its state, it will reject the next
    command, and the control will break on the one after that. -/
def faultyHall : Engine (House × Journal) where
  directory := .ofRooms [⟨"hall", .null, [⟨"lamp", .null, "light", "hall"⟩]⟩]
  range := ⟨16, 30⟩
  book := { actions := [lightHall] }
  records := [("lamp", { power := false })]
  outside :=
    (((default : House).scriptReads "lamp" [some "dark"]).scriptCommands "lamp"
      [some (.refuses 503 (.text "busy")), some (.breaks "gone")], [])

/-- The lamp is given back the recorded state in vain, and the error is still that of the first
    command. -/
theorem execute_contract_faultyHall :
    let lamp : DeviceTarget := ⟨"lamp", .null, "light", "hall"⟩
    let off : DeviceState := { power := false }
    let on : DeviceState := { power := true }
    let busy : CommandReply :=
      .answered { success := false, status := 503, message := .text "busy" }
    let result : Except ExecuteError ExecuteResult := .error (.call {
      message := "busy", deviceId := "lamp", status := some 503
      rollback := some (.failed off "gone") })
    ∃ after : Recorded,
      Execution faultyHall.directory lightHall false faultyHall.records.get?
        (Journal.reading lamp (.failed "dark") ++ Journal.commanding lamp on busy
          ++ Journal.commanding lamp off (.failed "gone")) after result ∧
      after "lamp" = some off := by
  have known : faultyHall.book.action? 0 = some lightHall := rfl
  obtain ⟨entries, journal, execution, -⟩ := faultyHall.execute_contract House.backend known false
  rw [Engine.execute_eq] at journal execution
  obtain rfl : _ = entries := journal
  exact ⟨_, execution, rfl⟩

end HomeAutomation
