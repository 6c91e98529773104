/-
  HomeAutomation.Engine.Dispatch

  What a snapshot sets off. Its readings are applied to the events; each event whose state changed
  notifies its actions, in the order of the changes and, for one event, in the order in which the
  actions were attached. The actions of an event that became active are carried out, those of an
  event that became inactive have nothing to do.
-/
import HomeAutomation.Engine.Basic
import HomeAutomation.Engine.Outcome

namespace HomeAutomation

/-- Why a snapshot was not dispatched. -/
inductive DispatchError
  /-- The snapshot is no object. -/
  | notASnapshot
  /-- A reading cannot be tested. -/
  | untestable (error : TestError)
  deriving DecidableEq, Repr

/-- A notification of one action about the state of an event. -/
structure Notice where
  action : Nat
  ruleId : String
  condition : String
  active : Bool
  deriving DecidableEq, Repr

/-- The notifications of the actions of an event, in the order of attachment. -/
def RuleBook.notices (book : RuleBook) (event : Nat) : List Notice :=
  match book.events.event? event with
  | none => []
  | some e =>
    e.actions.filterMap fun id =>
      (book.action? id).map fun a => ⟨id, a.ruleId, e.condition.describe, e.state⟩

namespace Engine

variable {σ : Type}

/-- Applies the readings of a snapshot; gives the events whose state changed. -/
def observe (engine : Engine σ) (snapshot : Json) :
    Engine σ × Except DispatchError (List Nat) :=
  match Snapshot.readings snapshot with
  | .error _ => (engine, .error .notASnapshot)
  | .ok readings =>
    let (book, triggered) := engine.book.observe [] readings
    ({ engine with book }, triggered.mapError .untestable)

/-- The notifications of a list of events. -/
def notices (engine : Engine σ) (events : List Nat) : List Notice :=
  events.flatMap engine.book.notices

end Engine

/-- The outcome of a notification, given the result if the action was carried out. -/
def Notice.outcome (notice : Notice) :
    Option (Except ExecuteError ExecuteResult) → ActionOutcome
  | none => .skip notice.ruleId notice.condition
  | some result => .ofResult notice.ruleId notice.condition result

end HomeAutomation
