/-
  HomeAutomation.Service.Rules

  Requests that change the rules. Each is served in two parts: the engine is changed at once, and
  what is to be filed is written afterwards, while other requests may be served. The answer is
  given when the writing is done; if it fails the request fails.
-/
import HomeAutomation.Engine.Operation
import HomeAutomation.Engine.Report
import HomeAutomation.Service.Answer

namespace HomeAutomation

/-- What is left of a request after its first part. -/
inductive RuleChange
  | refused (answer : Answer)
  /-- Something is to be filed; the answer is what is given afterwards. -/
  | writing (write : RuleWrite) (answer : Answer)
  deriving Repr

namespace RuleChange

variable {σ : Type}

/-- First part of a request to register a rule. -/
def create (engine : Engine σ) (time : String) (request : RuleRequest) : Engine σ × RuleChange :=
  match engine.register request.text request.id with
  | .error e =>
    (engine, .refused (.refusal 400
      (.object [("error", .text e.kind.name), ("message", .text e.message)])))
  | .ok (engine, handle) =>
    (engine, .writing ⟨handle.ruleId, handle.text, true⟩
      (.success [("ok", .bool true), ("rule", engine.book.handleJson time handle)]))

/-- First part of a request to remove a rule. -/
def delete (engine : Engine σ) (ruleId : String) : Engine σ × RuleChange :=
  match engine.book.rule? ruleId with
  | none => (engine, .refused (.refusal 404 (.text (RuleNotFound.mk ruleId).message)))
  | some handle =>
    ((engine.remove ruleId).1, .writing ⟨ruleId, handle.text, false⟩
      (.success [("ok", .bool true), ("id", .text ruleId)]))

/-- Second part of a request: files what is to be filed. -/
def file (saveRule : RuleWrite → σ → Except StorageError σ) (engine : Engine σ) :
    RuleChange → Engine σ × Answer
  | refused answer => (engine, answer)
  | writing write answer =>
    match saveRule write engine.outside with
    | .ok outside => ({ engine with outside }, answer)
    | .error e => (engine, .fail (.storage e))

end RuleChange

end HomeAutomation
