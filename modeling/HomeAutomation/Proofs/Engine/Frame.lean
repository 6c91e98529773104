/-
  HomeAutomation.Proofs.Engine.Frame

  What the operations of the engine leave alone.  Calls and saves change what
  lies outside, records change one entry, and of an action only two notes ever
  change: the state it would restore and whether it was carried out.  What an
  action is for, its `plan`, is fixed when it is made.
-/

import HomeAutomation.Proofs.Engine.Transition

namespace HomeAutomation

variable {σ : Type}

/-- What an action is for, leaving out its notes. -/
def Action.plan (a : Action) : Action := { a with previous := none, executed := false }

namespace RuleBook

/-- The plan of an action. -/
def plan? (book : RuleBook) (id : Nat) : Option Action := (book.action? id).map Action.plan

theorem action?_modifyAction (book : RuleBook) (id other : Nat) (f : Action → Action) :
    (book.modifyAction id f).action? other
      = if id = other then (book.action? other).map f else book.action? other := by
  simp only [action?, modifyAction, List.getElem?_modify]
  split <;> simp

theorem previous?_setPrevious_self {book : RuleBook} {id : Nat} {a : Action}
    (h : book.action? id = some a) (state : Option DeviceState) :
    (book.setPrevious id state).previous? id = state := by
  simp [previous?, setPrevious, action?_modifyAction, h]

theorem previous?_setPrevious_ne (book : RuleBook) {id other : Nat} (h : id ≠ other)
    (state : Option DeviceState) :
    (book.setPrevious id state).previous? other = book.previous? other := by
  simp [previous?, setPrevious, action?_modifyAction, h]

theorem previous?_setPrevious_none (book : RuleBook) (id : Nat) :
    (book.setPrevious id none).previous? id = none := by
  simp only [previous?, setPrevious, action?_modifyAction]
  cases book.action? id <;> simp

@[simp] theorem previous?_markExecuted (book : RuleBook) (id other : Nat) :
    (book.markExecuted id).previous? other = book.previous? other := by
  simp only [previous?, markExecuted, action?_modifyAction]
  split <;> cases book.action? other <;> simp

@[simp] theorem plan?_setPrevious (book : RuleBook) (id other : Nat)
    (state : Option DeviceState) : (book.setPrevious id state).plan? other = book.plan? other := by
  simp only [plan?, setPrevious, action?_modifyAction]
  split
  · cases book.action? other <;> simp [Action.plan]
  · rfl

@[simp] theorem plan?_markExecuted (book : RuleBook) (id other : Nat) :
    (book.markExecuted id).plan? other = book.plan? other := by
  simp only [plan?, markExecuted, action?_modifyAction]
  split
  · cases book.action? other <;> simp [Action.plan]
  · rfl

@[simp] theorem events_setPrevious (book : RuleBook) (id : Nat) (state : Option DeviceState) :
    (book.setPrevious id state).events = book.events := rfl

@[simp] theorem events_markExecuted (book : RuleBook) (id : Nat) :
    (book.markExecuted id).events = book.events := rfl

@[simp] theorem rules_setPrevious (book : RuleBook) (id : Nat) (state : Option DeviceState) :
    (book.setPrevious id state).rules = book.rules := rfl

@[simp] theorem rules_markExecuted (book : RuleBook) (id : Nat) :
    (book.markExecuted id).rules = book.rules := rfl

@[simp] theorem length_setPrevious (book : RuleBook) (id : Nat) (state : Option DeviceState) :
    (book.setPrevious id state).actions.length = book.actions.length := by
  simp [setPrevious, modifyAction]

@[simp] theorem length_markExecuted (book : RuleBook) (id : Nat) :
    (book.markExecuted id).actions.length = book.actions.length := by
  simp [markExecuted, modifyAction]

end RuleBook

-- ============================================================================
-- Calls and records
-- ============================================================================

namespace Engine

variable (engine : Engine σ) (backend : Backend σ) (target : DeviceTarget) (state : DeviceState)

@[simp] theorem directory_startCall (call : DeviceCall) :
    (engine.startCall backend call).1.directory = engine.directory := rfl

@[simp] theorem book_startCall (call : DeviceCall) :
    (engine.startCall backend call).1.book = engine.book := rfl

@[simp] theorem records_startCall (call : DeviceCall) :
    (engine.startCall backend call).1.records = engine.records := rfl

@[simp] theorem outside_startCall (call : DeviceCall) :
    (engine.startCall backend call).1.outside = (backend.startCall call engine.outside).1 := rfl

@[simp] theorem directory_readState :
    (engine.readState backend target).1.directory = engine.directory := rfl

@[simp] theorem book_readState :
    (engine.readState backend target).1.book = engine.book := rfl

@[simp] theorem records_readState :
    (engine.readState backend target).1.records = engine.records := rfl

@[simp] theorem outside_readState :
    (engine.readState backend target).1.outside = (backend.read target engine.outside).1 := rfl

@[simp] theorem directory_command :
    (engine.command backend target state).1.directory = engine.directory := rfl

@[simp] theorem book_command :
    (engine.command backend target state).1.book = engine.book := rfl

@[simp] theorem records_command :
    (engine.command backend target state).1.records = engine.records := rfl

@[simp] theorem outside_command :
    (engine.command backend target state).1.outside
      = (backend.command target state engine.outside).1 := rfl

@[simp] theorem directory_startSave :
    (engine.startSave backend).1.directory = engine.directory := rfl

@[simp] theorem book_startSave : (engine.startSave backend).1.book = engine.book := rfl

@[simp] theorem records_startSave : (engine.startSave backend).1.records = engine.records := rfl

@[simp] theorem outside_startSave :
    (engine.startSave backend).1.outside = (backend.startSave engine.outside).1 := rfl

@[simp] theorem directory_save (deviceId : String) :
    (engine.save backend deviceId state).directory = engine.directory := rfl

@[simp] theorem book_save (deviceId : String) :
    (engine.save backend deviceId state).book = engine.book := rfl

@[simp] theorem records_save (deviceId : String) :
    (engine.save backend deviceId state).records = engine.records := rfl

@[simp] theorem outside_save (deviceId : String) :
    (engine.save backend deviceId state).outside
      = (backend.save deviceId state engine.outside).1 := rfl

@[simp] theorem directory_record (deviceId : String) :
    (engine.record deviceId state).directory = engine.directory := rfl

@[simp] theorem book_record (deviceId : String) :
    (engine.record deviceId state).book = engine.book := rfl

@[simp] theorem records_record (deviceId : String) :
    (engine.record deviceId state).records = engine.records.set deviceId state := rfl

@[simp] theorem outside_record (deviceId : String) :
    (engine.record deviceId state).outside = engine.outside := rfl

@[simp] theorem directory_setPrevious (id : Nat) (previous : Option DeviceState) :
    (engine.setPrevious id previous).directory = engine.directory := rfl

@[simp] theorem book_setPrevious (id : Nat) (previous : Option DeviceState) :
    (engine.setPrevious id previous).book = engine.book.setPrevious id previous := rfl

@[simp] theorem records_setPrevious (id : Nat) (previous : Option DeviceState) :
    (engine.setPrevious id previous).records = engine.records := rfl

@[simp] theorem outside_setPrevious (id : Nat) (previous : Option DeviceState) :
    (engine.setPrevious id previous).outside = engine.outside := rfl

@[simp] theorem directory_markExecuted (id : Nat) :
    (engine.markExecuted id).directory = engine.directory := rfl

@[simp] theorem book_markExecuted (id : Nat) :
    (engine.markExecuted id).book = engine.book.markExecuted id := rfl

@[simp] theorem records_markExecuted (id : Nat) :
    (engine.markExecuted id).records = engine.records := rfl

@[simp] theorem outside_markExecuted (id : Nat) :
    (engine.markExecuted id).outside = engine.outside := rfl

end Engine

-- ============================================================================
-- Ways to leave a run
-- ============================================================================

namespace Run

variable {run : Run} {backend : Backend σ} {engine : Engine σ} {locks : LockTable}
  {target : DeviceTarget} {result : Except ExecuteError ExecuteResult}

@[simp] theorem directory_settle : (run.settle engine result).directory = engine.directory := by
  unfold settle; split <;> rfl

@[simp] theorem records_settle : (run.settle engine result).records = engine.records := by
  unfold settle; split <;> rfl

@[simp] theorem outside_settle : (run.settle engine result).outside = engine.outside := by
  unfold settle; split <;> rfl

@[simp] theorem events_settle : (run.settle engine result).book.events = engine.book.events := by
  unfold settle; split <;> rfl

@[simp] theorem rules_settle : (run.settle engine result).book.rules = engine.book.rules := by
  unfold settle; split <;> rfl

@[simp] theorem plan?_settle (id : Nat) :
    (run.settle engine result).book.plan? id = engine.book.plan? id := by
  unfold settle; split <;> simp

@[simp] theorem length_settle :
    (run.settle engine result).book.actions.length = engine.book.actions.length := by
  unfold settle; split <;> simp

theorem previous?_settle_self : (run.settle engine result).book.previous? run.action = none := by
  unfold settle; split <;> simp [RuleBook.previous?_setPrevious_none]

theorem previous?_settle_ne {id : Nat} (h : run.action ≠ id) :
    (run.settle engine result).book.previous? id = engine.book.previous? id := by
  unfold settle; split <;> simp [RuleBook.previous?_setPrevious_ne _ h]

-- ============================================================================
-- Frame of a step
-- ============================================================================

variable {self : Nat} {step : RunStep σ}

namespace Proceeds

/-- A step changes nothing of a run but how far it has come. -/
theorem run_eq (h : run.Proceeds backend self engine locks step) :
    step.run = run.enter step.run.phase step.run.pauses := by
  cases h <;> simp [close, leave, Run.accept, enter]

theorem directory_eq (h : run.Proceeds backend self engine locks step) :
    step.engine.directory = engine.directory := by
  cases h <;> simp [close, leave, Run.accept, sendDesired]

theorem events_eq (h : run.Proceeds backend self engine locks step) :
    step.engine.book.events = engine.book.events := by
  cases h <;> simp [close, leave, Run.accept, sendDesired]

theorem plan?_eq (h : run.Proceeds backend self engine locks step) (id : Nat) :
    step.engine.book.plan? id = engine.book.plan? id := by
  cases h <;> simp [close, leave, Run.accept, sendDesired]

theorem length_eq (h : run.Proceeds backend self engine locks step) :
    step.engine.book.actions.length = engine.book.actions.length := by
  cases h <;> simp [close, leave, Run.accept, sendDesired]

/-- A step leaves the notes on other actions alone. -/
theorem previous?_ne (h : run.Proceeds backend self engine locks step) {id : Nat}
    (hid : run.action ≠ id) :
    step.engine.book.previous? id = engine.book.previous? id := by
  cases h <;> simp [close, leave, Run.accept, sendDesired, previous?_settle_ne hid,
    RuleBook.previous?_setPrevious_ne _ hid]

/-- A step leaves the records of other devices alone. -/
theorem records_ne (h : run.Proceeds backend self engine locks step) {deviceId : String}
    (hd : ∀ target, run.target? = some target → deviceId ≠ target.deviceId) :
    step.engine.records.get? deviceId = engine.records.get? deviceId := by
  cases h with
  | accept phase =>
    exact Table.get?_set_ne _ _ (hd _ (by simp [target?, phase]))
  | restored phase =>
    exact Table.get?_set_ne _ _ (hd _ (by simp [target?, phase]))
  | _ => simp [close, leave, sendDesired]

end Proceeds

end Run

end HomeAutomation
