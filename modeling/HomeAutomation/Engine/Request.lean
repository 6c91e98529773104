/-
  HomeAutomation.Engine.Request

  What may be asked of the engine while tasks are under way. Requests about rules change them at
  once; snapshots and executions start a task.
-/
import HomeAutomation.Engine.Activity

namespace HomeAutomation.Activity

variable {σ : Type}

/-- What may be asked of the engine at any time. -/
inductive Request
  | register (text : String) (id : Option String)
  | remove (ruleId : String)
  | removeHandle (handle : Handle)
  | load (stored : List (String × String))
  | process (snapshot : Json)
  /-- Carries out an action by its number, whether or not its rule is still registered. -/
  | execute (action : Nat) (force : Bool)

/-- The rules after a request. A text that cannot be read changes nothing. -/
def Request.book (request : Request) (range : SetPointRange) (book : RuleBook) : RuleBook :=
  match request with
  | .register text id =>
    match book.register range text id with
    | .ok (book, _) => book
    | .error _ => book
  | .remove ruleId => (book.remove ruleId).1
  | .removeHandle handle => (book.removeHandle handle).1
  | .load stored => (book.load range stored).1
  | .process _ => book
  | .execute _ _ => book

/-- The task that a request starts, if any. -/
def Request.task? (request : Request) (book : RuleBook) : Option Task :=
  match request with
  | .process snapshot => some (.dispatch { snapshot })
  | .execute action force =>
    (book.action? action).map fun a => .run (.ofAction action a force none)
  | _ => none

/-- Takes a request: changes the rules at once or starts a task. -/
def submit (activity : Activity σ) (request : Request) : Activity σ :=
  { activity with
    engine := { activity.engine with
      book := request.book activity.engine.range activity.engine.book }
    tasks := activity.tasks ++ (request.task? activity.engine.book).toList }

end HomeAutomation.Activity
