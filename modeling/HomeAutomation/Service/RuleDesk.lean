/-
  HomeAutomation.Service.RuleDesk

  Requests about rules that overlap. A request changes the rules at once and files the change
  afterwards. Nothing is held meanwhile, so that any other request may do either in between. The
  desk keeps the changes that are yet to be filed, and in which order changes were made and filed.
-/
import HomeAutomation.Service.Installation

namespace HomeAutomation

variable {σ : Type}

/-! ## Calls -/

/-- What a request about a rule asks for. -/
inductive RuleCall
  | create (request : RuleRequest)
  | delete (ruleId : String)
  deriving DecidableEq

/-- First part of a call. -/
def RuleCall.change (engine : Engine σ) (time : String) : RuleCall → Engine σ × RuleChange
  | create request => RuleChange.create engine time request
  | delete ruleId => RuleChange.delete engine ruleId

namespace Service

/-- What a request about a rule asks for, if its body can be read. -/
def ruleCall? (request : ServiceRequest) : Option RuleCall :=
  match Route.find request.method.toUpper (Url.rootPath request.target) with
  | .ok .createRule =>
    match readBody request.body with
    | .ok body => (readFields body RuleRequest.ofFields).toOption.map .create
    | .error _ => none
  | .ok (.deleteRule ruleId) => some (.delete ruleId)
  | _ => none

/-- Carries out a call about a rule. -/
def serveCall (setup : Setup σ) (service : Service σ) (call : RuleCall) : Service σ × Answer :=
  let change := call.change service.engine setup.time
  let (engine, answer) := change.2.file setup.saveRule change.1
  ({ service with engine }, answer)

end Service

/-! ## Moments -/

/-- A moment in the service of requests about rules. -/
inductive RuleMoment
  /-- The rules are changed, and the change is yet to be filed. -/
  | changed (write : RuleWrite)
  /-- The change is filed. -/
  | filed (write : RuleWrite)
  deriving DecidableEq

/-- The id that a moment is about. -/
def RuleMoment.id : RuleMoment → String
  | changed write => write.id
  | filed write => write.id

/-- What is to be filed about a change. -/
def RuleChange.write? : RuleChange → Option RuleWrite
  | refused _ => none
  | writing write _ => some write

/-! ## The desk -/

/-- An installation while requests about rules are being served: those whose first part is done,
    and what has happened. -/
structure RuleDesk where
  service : Service Site
  pending : List RuleChange := []
  trace : List RuleMoment := []

/-- What may happen next. -/
inductive RuleMove
  /-- The first part of a request. -/
  | begin (request : ServiceRequest)
  /-- The second part of a request that is pending, given by its place. -/
  | finish (place : Nat)

namespace RuleDesk

/-- Does the first part of a request. A request that makes no call about rules is refused. -/
def begin (setup : Setup Site) (desk : RuleDesk) (request : ServiceRequest) : RuleDesk :=
  match Service.ruleCall? request with
  | none => desk
  | some call =>
    let (engine, change) := call.change desk.service.engine setup.time
    { service := { desk.service with engine }
      pending := desk.pending ++ [change]
      trace := desk.trace ++ (change.write?.map RuleMoment.changed).toList }

/-- Does the second part of a pending request. -/
def finish (setup : Setup Site) (desk : RuleDesk) (place : Nat) : RuleDesk :=
  match desk.pending[place]? with
  | none => desk
  | some change =>
    { service := { desk.service with
        engine := (change.file setup.saveRule desk.service.engine).1 }
      pending := desk.pending.eraseIdx place
      trace := desk.trace ++ (change.write?.map RuleMoment.filed).toList }

/-- Does what is to happen next. -/
def move (setup : Setup Site) (desk : RuleDesk) : RuleMove → RuleDesk
  | .begin request => desk.begin setup request
  | .finish place => desk.finish setup place

/-- Serves requests in an order of their parts. -/
def serve (setup : Setup Site) (service : Service Site) (moves : List RuleMove) : RuleDesk :=
  moves.foldl (move setup) { service }

end RuleDesk

end HomeAutomation
