/-
  HomeAutomation.Event.Basic

  Events: the live state of a condition together with the actions that wait for it. An event changes
  its state only when a reading of its metric at its location changes whether the condition
  holds; that change is what its actions are told. Actions are known by names of any type.
-/
import HomeAutomation.Rule.Condition
import HomeAutomation.Sensor.Snapshot

namespace HomeAutomation

/-- The last value an event has seen: whether there is motion, or a number. -/
inductive EventValue
  | truth (value : Bool)
  | number (value : Double)
  deriving DecidableEq, Repr

/-- The value in reports. -/
def EventValue.toJson : EventValue → Json
  | truth value => .bool value
  | number value => .double value

/-- Why a value cannot be tested against a condition. -/
inductive TestError
  /-- The value is no number. -/
  | conversion (error : Json.ConversionError)
  /-- There is no threshold to compare with. -/
  | noThreshold
  /-- The sign of the condition is no comparison. -/
  | noComparison
  deriving DecidableEq, Repr

namespace Condition

/-- The value that a condition sees in a reading: its truth for motion, else its number. -/
def see (c : Condition) (value : Json) : Except Json.ConversionError EventValue :=
  if c.isMotion then .ok (.truth value.isTrue) else value.toDouble.map .number

/-- Whether a number stands in the comparison of a condition. Nothing is equal to a threshold that
    is missing, and no other comparison is possible with it. -/
def compares (c : Condition) (value : Double) : Except TestError Bool :=
  match c.operator.bind Comparison.ofSymbol?, c.threshold with
  | none, _ => .error .noComparison
  | some comparison, some threshold => .ok (comparison.holds value threshold)
  | some .equal, none => .ok false
  | some _, none => .error .noThreshold

/-- Whether a condition holds for a value that was seen. -/
def test (c : Condition) : EventValue → Except TestError Bool
  | .truth value => .ok (value == c.expected)
  | .number value => c.compares value

/-- Whether a condition holds for a reading. -/
def evaluate (c : Condition) (value : Json) : Except TestError Bool := do
  let seen ← (c.see value).mapError .conversion
  c.test seen

end Condition

/-- The live state of a condition. -/
structure Event (α : Type) where
  condition : Condition
  /-- The last value that could be used. -/
  value : Option EventValue := none
  /-- Whether the condition held for it. -/
  state : Bool := false
  /-- Whether the state has ever changed. -/
  changed : Bool := false
  /-- The actions that wait for the event, oldest first. -/
  actions : List α := []
  deriving Repr

namespace Event

variable {α : Type}

/-- The sign of a condition that is no comparison. -/
structure UnknownOperator where
  operator : Option String
  deriving DecidableEq, Repr

/-- The message about a sign that is no comparison. -/
def UnknownOperator.message (e : UnknownOperator) : String :=
  "Unknown operator: " ++ e.operator.getD "None"

/-- The event of a condition that has not been seen to hold. All conditions but those on motion
    need a comparison. -/
def ofCondition (c : Condition) : Except UnknownOperator (Event α) :=
  if c.isMotion || (c.operator.bind Comparison.ofSymbol?).isSome then .ok { condition := c }
  else .error ⟨c.operator⟩

/-- Adds an action that is not there yet. -/
def attach [DecidableEq α] (e : Event α) (action : α) : Event α :=
  if action ∈ e.actions then e else { e with actions := e.actions ++ [action] }

/-- Removes an action; tells whether it was there. -/
def detach [DecidableEq α] (e : Event α) (action : α) : Event α × Bool :=
  ({ e with actions := e.actions.erase action }, decide (action ∈ e.actions))

/-- Applies a reading; tells whether the state changed. A reading about something else and
    one that is no number change nothing. -/
def update (e : Event α) (r : SensorReading) : Event α × Except TestError Bool :=
  if r.location ≠ e.condition.location || r.metric ≠ e.condition.metric then (e, .ok false)
  else
    match e.condition.see r.value with
    | .error .outOfRange => (e, .error (.conversion .outOfRange))
    | .error _ => (e, .ok false)
    | .ok seen =>
      let e := { e with value := some seen }
      match e.condition.test seen with
      | .error error => (e, .error error)
      | .ok holds =>
        if holds = e.state then (e, .ok false)
        else ({ e with state := holds, changed := true }, .ok true)

/-- The last value in reports. -/
def valueJson (e : Event α) : Json := (e.value.map EventValue.toJson).getD .null

end Event

end HomeAutomation
