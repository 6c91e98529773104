/-
  HomeAutomation.Engine.Report

  Rules, events and results as reports show them. The engine keeps no times, only whether something
  has ever happened; where a report shows the time of something that has, it writes the text that it
  is given for times.
-/
import HomeAutomation.Engine.Basic
import HomeAutomation.Engine.Outcome

namespace HomeAutomation

/-- The time of something, if it has happened. -/
def timeJson (time : String) (happened : Bool) : Json := if happened then .text time else .null

/-- A condition in reports. -/
def Condition.fields (c : Condition) : Table Json :=
  [("metric", .text c.metric), ("location", .text c.location), ("operator", .ofText? c.operator),
   ("threshold", .ofDouble? c.threshold), ("expected", .bool c.expected)]

/-- A command in reports. -/
def ActionSpec.toJson (a : ActionSpec) : Json :=
  .object [("device_type", .text a.device.name), ("location", .text a.location),
    ("power", .bool a.power), ("temperature", .ofDouble? a.temperature),
    ("mode", .ofText? a.mode), ("brightness", .ofInteger? a.brightness),
    ("extras", .list (a.extras.map .text)), ("describe", .text a.describe)]

/-- The parameters of a command in reports. -/
def DeviceParams.toJson : DeviceParams → Json
  | ac temperature mode =>
    .object [("temperature", .ofDouble? temperature), ("mode", .ofText? mode)]
  | light brightness color =>
    .object [("brightness", .ofInteger? brightness), ("color", .ofText? color)]
  | fan speed => .object [("speed", .ofText? speed)]

/-- The response of a device in reports. -/
def ControlResponse.toJson (r : ControlResponse) : Json :=
  .object [("success", .bool r.success), ("status", .integer r.status), ("data", r.data),
    ("message", r.message)]

/-- The outcome of a notification in reports. -/
def ActionOutcome.toJson (o : ActionOutcome) : Json :=
  .object [("rule_id", .text o.ruleId), ("condition", .text o.condition), ("ok", .bool o.ok),
    ("skipped", .bool o.skipped), ("error", .ofText? o.error), ("detail", .object o.extra),
    ("result", (o.result.map ExecuteResult.toJson).getD .null)]

/-- An action in reports. -/
def Action.toJson (a : Action) (time : String) : Json :=
  .object [("rule_id", .text a.ruleId), ("device_type", .text a.spec.device.name),
    ("location", .text a.spec.location), ("desired", a.desired.payload),
    ("extras", .list (a.spec.extras.map .text)), ("last_executed", timeJson time a.executed)]

/-- An event in reports; its actions are given by their rules. -/
def Event.toJson {α : Type} (e : Event α) (ruleIds : List String) (time : String) : Json :=
  .object [("condition", .text e.condition.describe), ("metric", .text e.condition.metric),
    ("location", .text e.condition.location), ("operator", .ofText? e.condition.operator),
    ("threshold", .ofDouble? e.condition.threshold),
    ("expected", if e.condition.isMotion then .bool e.condition.expected else .null),
    ("current_value", e.valueJson), ("state", .bool e.state),
    ("last_updated", timeJson time e.changed), ("actions", .list (ruleIds.map .text))]

namespace RuleBook

/-- The rules of the actions of an event. -/
def rulesOf (book : RuleBook) (e : Event Nat) : List String :=
  e.actions.filterMap fun id => (book.action? id).map (·.ruleId)

/-- A registered rule in reports. -/
def handleJson (book : RuleBook) (time : String) (handle : Handle) : Json :=
  let e := book.events.event? handle.event
  .object [("id", .text handle.ruleId), ("text", .text handle.text),
    ("condition", .text ((e.map (·.condition.describe)).getD "")),
    ("event_state", .bool ((e.map (·.state)).getD false)),
    ("action", ((book.action? handle.action).map (·.toJson time)).getD .null)]

/-- The registered rules in reports. -/
def rulesJson (book : RuleBook) (time : String) : Json :=
  .list (book.rules.values.map (book.handleJson time))

/-- The registered events in reports. -/
def eventsJson (book : RuleBook) (time : String) : Json :=
  .list (book.events.events.map fun (_, e) => e.toJson (book.rulesOf e) time)

end RuleBook

end HomeAutomation
