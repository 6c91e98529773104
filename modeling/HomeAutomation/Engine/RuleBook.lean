/-
  HomeAutomation.Engine.RuleBook

  The registered rules with their events and actions. Registering a rule makes one action and
  attaches it to the event of the rule's condition, which rules share; removing a rule detaches its
  action and drops an event that is left without one. A rule registered under an id that is in use
  replaces the rule that has it.
-/
import HomeAutomation.Device.Params
import HomeAutomation.Event.Registry
import HomeAutomation.Rule.Parser

namespace HomeAutomation

/-- An action of a rule. -/
structure Action where
  ruleId : String
  spec : ActionSpec
  params : DeviceParams
  /-- The state to restore, while the action is carried out. -/
  previous : Option DeviceState := none
  /-- Whether the action was ever carried out. -/
  executed : Bool := false
  deriving Repr

/-- The state that the action gives its device. -/
def Action.desired (a : Action) : DeviceState := a.params.desiredState a.spec.power

/-- What a registration gives out: the rule as it was registered, with the numbers of its event and
    its action. -/
structure Handle where
  ruleId : String
  text : String
  event : Nat
  action : Nat
  deriving DecidableEq, Repr, Inhabited

/-- The registered rules. -/
structure RuleBook where
  /-- Every action ever made; its number is its place. -/
  actions : List Action := []
  events : EventRegistry Nat := {}
  /-- The registered rules by id, in the order of registration. -/
  rules : Table Handle := []
  /-- How many ids have been generated. -/
  generated : Nat := 0
  deriving Repr

namespace RuleBook

/-- The action of a number. -/
def action? (book : RuleBook) (id : Nat) : Option Action := book.actions[id]?

/-- Changes the action of a number. -/
def modifyAction (book : RuleBook) (id : Nat) (f : Action → Action) : RuleBook :=
  { book with actions := book.actions.modify id f }

/-- The state that an action would restore. -/
def previous? (book : RuleBook) (id : Nat) : Option DeviceState :=
  (book.action? id).bind (·.previous)

/-- Sets or clears the state that an action would restore. -/
def setPrevious (book : RuleBook) (id : Nat) (state : Option DeviceState) : RuleBook :=
  book.modifyAction id fun a => { a with previous := state }

/-- Notes that an action was carried out. -/
def markExecuted (book : RuleBook) (id : Nat) : RuleBook :=
  book.modifyAction id fun a => { a with executed := true }

/-- The registered rule of an id. -/
def rule? (book : RuleBook) (ruleId : String) : Option Handle := book.rules.get? ruleId

/-- The id that is generated as the `count`-th: a name with twelve hexadecimal digits. -/
def generatedId (count : Nat) : String := "rule_" ++ String.ofList (Text.hex 12 count)

/-! ## Removal -/

/-- Removes the rule of an id; tells whether there was one. -/
def remove (book : RuleBook) (ruleId : String) : RuleBook × Bool :=
  match book.rule? ruleId with
  | none => (book, false)
  | some handle =>
    let events := (book.events.detach handle.event handle.action).1
    ({ book with rules := book.rules.erase ruleId, events := (events.prune handle.event).1 }, true)

/-- Removes the rule that has the id of a handle; tells whether there was one. -/
def removeHandle (book : RuleBook) (handle : Handle) : RuleBook × Bool :=
  book.remove handle.ruleId

/-! ## Registration -/

/-- The id of a new rule: the one that is given, unless it is empty, or a generated one. -/
def chooseId (book : RuleBook) : Option String → RuleBook × String
  | some id =>
    if id.isEmpty then
      ({ book with generated := book.generated + 1 }, generatedId (book.generated + 1))
    else (book, id)
  | none => ({ book with generated := book.generated + 1 }, generatedId (book.generated + 1))

/-- Registers a rule that has been read under an id that no rule has. The condition of a rule
    always has an event. -/
def enter (book : RuleBook) (ruleId text : String) (rule : Rule) : RuleBook × Handle :=
  match book.events.getOrCreate rule.condition with
  | .error _ => (book, default)
  | .ok (events, event, _) =>
    let action := book.actions.length
    let handle : Handle := ⟨ruleId, text, event, action⟩
    ({ book with
        actions := book.actions ++ [⟨ruleId, rule.action, .ofSpec rule.action, none, false⟩]
        events := events.attach event action
        rules := book.rules.set ruleId handle }, handle)

/-- Registers a rule text. A text that cannot be read changes nothing. -/
def register (book : RuleBook) (range : SetPointRange) (text : String) (id : Option String) :
    Except ParseError (RuleBook × Handle) := do
  let rule ← Rule.parse range text
  let (book, ruleId) := book.chooseId id
  return (book.remove ruleId).1.enter ruleId text rule

/-- Registers stored rules one after the other, passing over those that cannot be read. -/
def load (book : RuleBook) (range : SetPointRange) (stored : List (String × String)) :
    RuleBook × List Handle :=
  stored.foldl (fun (book, loaded) (id, text) =>
    match book.register range text (some id) with
    | .ok (book, handle) => (book, loaded ++ [handle])
    | .error _ => (book, loaded)) (book, [])

/-! ## Readings -/

/-- Applies one reading to the events of a list, one after the other, and notes those whose state
    changed. A reading that cannot be tested stops it. -/
def observeReading (r : SensorReading) (book : RuleBook) (triggered : List Nat) :
    List Nat → RuleBook × List Nat × Option TestError
  | [] => (book, triggered, none)
  | id :: rest =>
    match book.events.event? id with
    | none => observeReading r book triggered rest
    | some e =>
      let (updated, result) := e.update r
      let book := { book with events := book.events.modify id fun _ => updated }
      match result with
      | .error error => (book, triggered, some error)
      | .ok flipped =>
        let triggered := if flipped && id ∉ triggered then triggered ++ [id] else triggered
        observeReading r book triggered rest

/-- Applies readings to the events that match them; gives the events whose state changed, in the
    order of the changes. -/
def observe (book : RuleBook) (triggered : List Nat) :
    List SensorReading → RuleBook × Except TestError (List Nat)
  | [] => (book, .ok triggered)
  | r :: rest =>
    match observeReading r book triggered (book.events.matching r.metric r.location) with
    | (book, _, some error) => (book, .error error)
    | (book, triggered, none) => book.observe triggered rest

end RuleBook

end HomeAutomation
