/-
  HomeAutomation.Engine.Operation

  The operations of the engine on devices: carrying out actions, dispatching snapshots and notifying
  the actions of an event. Several of one kind may be asked for at once; they are started in their
  order and go on side by side until all are over.
-/
import HomeAutomation.Engine.Activity

namespace HomeAutomation

/-- No rule is registered under the id. -/
structure RuleNotFound where
  ruleId : String
  deriving DecidableEq, Repr

/-- The message about a rule that is not registered. -/
def RuleNotFound.message (e : RuleNotFound) : String := "Rule " ++ e.ruleId ++ " not found"

/-- A request to carry out the action of a rule. -/
structure ExecuteRule where
  ruleId : String
  force : Bool := false
  deriving DecidableEq, Repr

namespace Activity

variable {σ : Type}

/-- The result of a run that was completed. -/
def runOutcome (activity : Activity σ) (id : Nat) : Except ExecuteError ExecuteResult :=
  (activity.runResult? id).getD (.error (.notFound ⟨"", ""⟩))

/-- The results of the dispatches that were started first. -/
def dispatchOutcomes (activity : Activity σ) (started : Nat) :
    List (Except DispatchError (List ActionOutcome)) :=
  (List.range started).map fun id => (activity.dispatchResult? id).getD (.ok [])

end Activity

namespace Engine

variable {σ : Type}

/-- Carries an action out. -/
def execute (engine : Engine σ) (backend : Backend σ) (id : Nat) (a : Action) (force : Bool) :
    Engine σ × Except ExecuteError ExecuteResult :=
  let activity := Activity.complete backend engine [.run (.ofAction id a force none)]
  (activity.engine, activity.runOutcome 0)

/-- Starts the runs that requests ask for, the first of which gets the number `first`; tells the
    number of the run of each request. -/
def startRuns (book : RuleBook) (first : Nat) :
    List ExecuteRule → List (Except RuleNotFound Nat) × List Run
  | [] => ([], [])
  | request :: rest =>
    match (book.rule? request.ruleId).bind fun handle =>
        (book.action? handle.action).map (Run.ofAction handle.action · request.force none) with
    | some run =>
      let (numbers, runs) := startRuns book (first + 1) rest
      (.ok first :: numbers, run :: runs)
    | none =>
      let (numbers, runs) := startRuns book first rest
      (.error ⟨request.ruleId⟩ :: numbers, runs)

/-- Carries out the actions of rules side by side. -/
def executeRules (engine : Engine σ) (backend : Backend σ) (requests : List ExecuteRule) :
    Engine σ × List (Except RuleNotFound (Except ExecuteError ExecuteResult)) :=
  let (numbers, runs) := startRuns engine.book 0 requests
  let activity := Activity.complete backend engine (runs.map .run)
  (activity.engine, numbers.map fun number => number.map activity.runOutcome)

/-- Carries out the action of a rule. -/
def executeRule (engine : Engine σ) (backend : Backend σ) (request : ExecuteRule) :
    Engine σ × Except RuleNotFound (Except ExecuteError ExecuteResult) :=
  match engine.executeRules backend [request] with
  | (engine, [result]) => (engine, result)
  | (engine, _) => (engine, .error ⟨request.ruleId⟩)

/-- Dispatches snapshots that arrive at once. -/
def dispatchAll (engine : Engine σ) (backend : Backend σ) (snapshots : List Json) :
    Engine σ × List (Except DispatchError (List ActionOutcome)) :=
  let activity := Activity.complete backend engine (snapshots.map fun s => .dispatch { snapshot := s })
  (activity.engine, activity.dispatchOutcomes snapshots.length)

/-- Dispatches a snapshot. -/
def dispatch (engine : Engine σ) (backend : Backend σ) (snapshot : Json) :
    Engine σ × Except DispatchError (List ActionOutcome) :=
  let activity := Activity.complete backend engine [.dispatch { snapshot }]
  (activity.engine, (activity.dispatchResult? 0).getD (.ok []))

/-- Notifies the actions of an event about its present state. -/
def notify (engine : Engine σ) (backend : Backend σ) (event : Nat) (force : Bool) :
    Engine σ × List ActionOutcome :=
  let (slots, runs) := Activity.slotsOf engine.book force none 0 (engine.book.notices event)
  let activity := Activity.complete backend engine (runs.map .run)
  (activity.engine, (activity.outcomes? slots).getD [])

end Engine

end HomeAutomation
