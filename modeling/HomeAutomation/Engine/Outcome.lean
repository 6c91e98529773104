/-
  HomeAutomation.Engine.Outcome

  What carrying out an action gives: a result, or an error that tells why the command failed and
  what became of the attempt to restore the device.
-/
import HomeAutomation.Device.Backend

namespace HomeAutomation

/-- What became of restoring a device after a failed command. -/
structure RollbackOutcome where
  attempted : Bool
  success : Bool
  state : Option DeviceState := none
  error : Option String := none
  deriving Repr, Inhabited

namespace RollbackOutcome

/-- There was no state to restore. -/
def notAttempted : RollbackOutcome :=
  { attempted := false, success := false, error := some "no previous state" }

/-- The state was restored. -/
def restored (state : DeviceState) : RollbackOutcome :=
  { attempted := true, success := true, state := some state }

/-- Restoring the state failed. -/
def failed (state : DeviceState) (reason : String) : RollbackOutcome :=
  { attempted := true, success := false, state := some state, error := some reason }

/-- The outcome in reports. -/
def toJson (r : RollbackOutcome) : Json :=
  .object [("attempted", .bool r.attempted), ("success", .bool r.success),
    ("state", (r.state.map DeviceState.payload).getD .null), ("error", .ofText? r.error)]

end RollbackOutcome

/-- A command that failed. -/
structure CallError where
  message : String
  deviceId : String
  /-- The status of the response, if there was one. -/
  status : Option Int := none
  rollback : Option RollbackOutcome := none
  /-- Whether the control itself failed, instead of answering. -/
  raised : Bool := false
  deriving Repr, Inhabited

/-- The fields of a failed command in reports. -/
def CallError.fields (e : CallError) : Table Json :=
  [("error", .text e.message), ("device_id", .text e.deviceId),
   ("status_code", (e.status.map Json.integer).getD .null),
   ("rollback", (e.rollback.map RollbackOutcome.toJson).getD .null)]

/-- Why an action was not carried out. -/
inductive ExecuteError
  | notFound (error : DeviceNotFound)
  | call (error : CallError)
  deriving Repr

namespace ExecuteError

/-- The message of an error. -/
def message : ExecuteError → String
  | notFound error => error.message
  | call error => error.message

/-- What reports add to the message. -/
def fields : ExecuteError → Table Json
  | notFound _ => []
  | call error => error.fields

end ExecuteError

/-- What an action that was carried out reports. -/
structure ExecuteResult where
  success : Bool
  deviceId : String
  /-- Whether the device was left alone, being in the desired state already. -/
  noChange : Bool := false
  state : Option DeviceState := none
  message : String := ""
  deriving Repr, Inhabited

/-- A result in reports. -/
def ExecuteResult.toJson (r : ExecuteResult) : Json :=
  .object [("success", .bool r.success), ("device_id", .text r.deviceId),
    ("no_change", .bool r.noChange), ("state", (r.state.map DeviceState.payload).getD .null),
    ("message", .text r.message)]

/-- What became of one action that an event notified. -/
structure ActionOutcome where
  ruleId : String
  condition : String
  result : Option ExecuteResult := none
  error : Option String := none
  /-- Whether the action had nothing to do. -/
  skipped : Bool := false
  /-- What a failed command reports besides its message. -/
  extra : Table Json := []
  deriving Repr, Inhabited

namespace ActionOutcome

/-- Whether the action did not fail. -/
def ok (o : ActionOutcome) : Bool := o.error.isNone

/-- The outcome of an action that had nothing to do. -/
def skip (ruleId condition : String) : ActionOutcome := { ruleId, condition, skipped := true }

/-- The outcome of an action that was carried out or failed. -/
def ofResult (ruleId condition : String) : Except ExecuteError ExecuteResult → ActionOutcome
  | .ok result => { ruleId, condition, result := some result }
  | .error e => { ruleId, condition, error := some e.message, extra := e.fields }

end ActionOutcome

end HomeAutomation
