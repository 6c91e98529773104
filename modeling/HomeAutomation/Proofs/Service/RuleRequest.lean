/-
  HomeAutomation.Proofs.Service.RuleRequest

  Requests that register or remove a rule.  Such a request is refused and then
  leaves the service as it is, or it changes the rules.  What it changes is filed
  afterwards, and the answer is a success only if that can be done.
-/

import HomeAutomation.Proofs.Engine.Listing
import HomeAutomation.Proofs.Service.Answer
import HomeAutomation.Service.RuleDesk

namespace HomeAutomation

variable {σ : Type}

-- ============================================================================
-- Calls
-- ============================================================================

namespace RuleCall

/-- A call changes the rules of an engine to those of a rule book, and there is something to be
    filed about it. -/
inductive Changes (engine : Engine σ) : RuleCall → RuleBook → RuleWrite → Prop
  | create {request : RuleRequest} {book : RuleBook} {handle : Handle}
      (registered : engine.book.register engine.range request.text request.id = .ok (book, handle)) :
      Changes engine (create request) book ⟨handle.ruleId, handle.text, true⟩
  | delete {ruleId : String} {handle : Handle} (found : engine.book.rule? ruleId = some handle) :
      Changes engine (delete ruleId) (engine.book.remove ruleId).1 ⟨ruleId, handle.text, false⟩

/-- A call that changes the rules has only to be filed, and announces a success. -/
theorem Changes.change_eq {engine : Engine σ} {call : RuleCall} {book : RuleBook}
    {write : RuleWrite} (changes : call.Changes engine book write) (time : String) :
    ∃ success, call.change engine time = ({ engine with book }, .writing write success) ∧
      success.isError = false := by
  cases changes with
  | @create request book handle registered =>
    have entered : engine.register request.text request.id = .ok ({ engine with book }, handle) := by
      rw [Engine.register, registered]
      rfl
    have finite := RuleBook.isFinite_handleJson registered time
    refine ⟨_, by simp only [change, RuleChange.create, entered]; rfl, ?_⟩
    refine Answer.isError_success ?_
    simp [Json.fieldsFinite, Json.isFinite, finite]
  | delete found =>
    refine ⟨_, by simp only [change, RuleChange.delete, found]; rfl, ?_⟩
    exact Answer.isError_success rfl

/-- A call changes the rules, or it is refused. -/
theorem change_cases (engine : Engine σ) (time : String) (call : RuleCall) :
    (∃ book write, call.Changes engine book write) ∨
    ∃ refusal, call.change engine time = (engine, .refused refusal) ∧ refusal.isError = true := by
  cases call with
  | create request =>
    cases h : engine.register request.text request.id with
    | ok registered =>
      obtain ⟨engine', handle⟩ := registered
      obtain ⟨book, registered, rfl⟩ := Engine.exists_of_register h
      exact .inl ⟨book, _, .create registered⟩
    | error e =>
      refine .inr ⟨_, by simp only [change, RuleChange.create, h]; rfl, ?_⟩
      exact Answer.isError_refusal (by decide) _
  | delete ruleId =>
    cases found : engine.book.rule? ruleId with
    | some handle => exact .inl ⟨_, _, .delete found⟩
    | none =>
      refine .inr ⟨_, by simp only [change, RuleChange.delete, found]; rfl, ?_⟩
      exact Answer.isError_refusal (by decide) _

namespace Changes

variable {engine : Engine σ} {call : RuleCall} {book : RuleBook} {write : RuleWrite}

/-- The rules are listed as what is to be filed tells. -/
theorem listing_eq (changes : call.Changes engine book write) :
    book.listing = write.applied engine.book.listing := by
  cases changes with
  | create registered => exact RuleBook.listing_register registered
  | delete found => exact RuleBook.listing_remove _ _ _

/-- Only the rule that something is filed about is touched. -/
theorem undisturbed (changes : call.Changes engine book write) :
    RuleBook.Undisturbed write.id engine.book book := by
  cases changes with
  | create registered => exact (RuleBook.register_spec registered).2.2.2
  | delete found => exact .remove _ _

/-- Only texts that can be read are filed as active. -/
theorem isReadable (changes : call.Changes engine book write) (active : write.active = true) :
    Rule.isReadable engine.range write.text = true := by
  cases changes with
  | create registered =>
    obtain ⟨-, written, -, -⟩ := RuleBook.register_spec registered
    exact written ▸ RuleBook.isReadable_of_register registered
  | delete found => cases active

/-- Only the rule that is found is filed as inactive. -/
theorem mem_names (changes : call.Changes engine book write) (inactive : write.active = false) :
    write.id ∈ engine.book.listing.names := by
  cases changes with
  | create registered => cases inactive
  | delete found => exact List.mem_map_of_mem (RuleBook.mem_listing found)

theorem id_ne_empty (changes : call.Changes engine book write) (active : write.active = true) :
    write.id ≠ "" := by
  cases changes with
  | create registered =>
    obtain ⟨given, -, -, -⟩ := RuleBook.register_spec registered
    exact given ▸ RuleBook.chooseId_ne_empty _ _
  | delete found => cases active

theorem linked (changes : call.Changes engine book write) (sound : engine.book.Sound)
    (linked : RuleBook.Linked engine.range engine.book) : RuleBook.Linked engine.range book := by
  cases changes with
  | create registered => exact linked.register sound registered
  | delete found => exact linked.remove sound _

theorem sound (changes : call.Changes engine book write) (sound : engine.book.Sound) :
    book.Sound := by
  cases changes with
  | create registered => exact sound.register registered
  | delete found => exact sound.remove _

end Changes

end RuleCall

-- ============================================================================
-- Requests
-- ============================================================================

/-- Whether a route changes the rules. -/
def Route.changesRules : Route → Bool
  | createRule | deleteRule _ => true
  | _ => false

/-- Whether a request is to register or to remove a rule. -/
def ServiceRequest.isAboutRules (request : ServiceRequest) : Bool :=
  (Route.find request.method.toUpper (Url.rootPath request.target)).toOption.any Route.changesRules

theorem ServiceRequest.exists_route {request : ServiceRequest}
    (about : request.isAboutRules = true) :
    ∃ route, Route.find request.method.toUpper (Url.rootPath request.target) = .ok route ∧
      route.changesRules = true := by
  unfold isAboutRules at about
  cases found : Route.find request.method.toUpper (Url.rootPath request.target) with
  | ok route => exact ⟨route, rfl, by simpa [found, Except.toOption] using about⟩
  | error refusal => simp [found, Except.toOption] at about

/-- A service has the parts that requests about rules need. -/
def Setup.KeepsRules (setup : Setup σ) : Prop :=
  ServicePart.rules ∉ setup.missing ∧ ServicePart.storage ∉ setup.missing

namespace Service

theorem isError_of_readBody {body : String} {refusal : Answer}
    (h : readBody body = .error refusal) : refusal.isError = true := by
  unfold readBody at h
  split at h
  · cases h
  · split at h <;> cases h
    · exact Answer.isError_refusal (by decide) _
    · exact Answer.isError_refusal (by decide) _
    · exact Answer.isError_refusal (by decide) _
    · rfl

theorem obstacle?_eq_none_iff {setup : Setup σ} {service : Service σ} {route : Route}
    (changes : route.changesRules = true) :
    obstacle? setup service route = none ↔ setup.KeepsRules := by
  have needs : route.needs = [.rules, .storage] := by
    cases route <;> first | rfl | cases changes
  unfold obstacle? Setup.KeepsRules
  rw [needs]
  by_cases rules : ServicePart.rules ∈ setup.missing
  · simp [rules]
  · by_cases storage : ServicePart.storage ∈ setup.missing
    · simp [rules, storage]
    · simp [rules, storage]

/-- A request that makes a call is about rules, and the call is carried out if the service has what
    it needs. -/
theorem respond_of_ruleCall {setup : Setup σ} {request : ServiceRequest} {call : RuleCall}
    (keeps : setup.KeepsRules) (made : ruleCall? request = some call) (service : Service σ) :
    respond setup service request.method.toUpper (Url.rootPath request.target) request.body
      = serveCall setup service call := by
  unfold ruleCall? at made
  unfold respond
  split at made
  · rename_i found
    have free : obstacle? setup service .createRule = none := (obstacle?_eq_none_iff rfl).2 keeps
    simp only [found]
    rw [if_pos (show Route.createRule.hasBody = true from rfl)]
    cases read : readBody request.body with
    | error refusal =>
      rw [read] at made
      cases made
    | ok body =>
      rw [read] at made
      cases fields : readFields body RuleRequest.ofFields with
      | error issues => simp [fields, Except.toOption] at made
      | ok asked =>
        obtain rfl : RuleCall.create asked = call := by simpa [fields, Except.toOption] using made
        simp only [free, serve, fields, serveCall, RuleCall.change]
  · rename_i ruleId found
    have free : obstacle? setup service (.deleteRule ruleId) = none :=
      (obstacle?_eq_none_iff rfl).2 keeps
    cases made
    simp only [found]
    rw [if_neg (show ¬ (Route.deleteRule ruleId).hasBody = true from Bool.false_ne_true)]
    simp only [free, serve, serveCall, RuleCall.change]
  · cases made

/-- A request about rules changes nothing if the service is without something that it needs, or
    if what it asks for cannot be read. -/
theorem respond_of_isAboutRules {setup : Setup σ} {request : ServiceRequest}
    (about : request.isAboutRules = true) (service : Service σ)
    (h : setup.KeepsRules → ruleCall? request = none) :
    ∃ refusal, respond setup service request.method.toUpper (Url.rootPath request.target)
      request.body = (service, refusal) ∧ refusal.isError = true := by
  obtain ⟨route, found, changes⟩ := request.exists_route about
  unfold respond
  simp only [found]
  cases read : if route.hasBody then readBody request.body else .ok none with
  | error refusal =>
    refine ⟨refusal, rfl, ?_⟩
    split at read
    · exact isError_of_readBody read
    · cases read
  | ok body =>
    dsimp only
    cases free : obstacle? setup service route with
    | some failure => exact ⟨_, rfl, rfl⟩
    | none =>
      have unasked := h ((obstacle?_eq_none_iff changes).1 free)
      unfold ruleCall? at unasked
      simp only [found] at unasked
      cases route with
      | createRule =>
        rw [if_pos (show Route.createRule.hasBody = true from rfl)] at read
        cases fields : readFields body RuleRequest.ofFields with
        | ok asked => simp [read, fields, Except.toOption] at unasked
        | error issues =>
          refine ⟨.ofIssues issues, ?_, Answer.isError_ofIssues issues⟩
          simp only [serve, fields]
      | deleteRule ruleId => cases unasked
      | _ => cases changes

/-- An answer is given as it is responded, but for its body. -/
theorem exists_answer {setup : Setup σ} {service after : Service σ} {request : ServiceRequest}
    {given : Answer} (h : respond setup service request.method.toUpper
      (Url.rootPath request.target) request.body = (after, given)) :
    ∃ answer, service.answer setup request = (after, answer) ∧ answer.isError = given.isError ∧
      ∀ failure, given = .fail failure → answer = .fail failure := by
  unfold answer
  simp only [h]
  split
  · refine ⟨_, rfl, given.isError_withoutBody, ?_⟩
    rintro failure rfl
    rfl
  · exact ⟨_, rfl, rfl, fun _ failed => failed⟩

-- ============================================================================
-- Answers to requests
-- ============================================================================

section

variable {setup : Setup σ} {service : Service σ} {request : ServiceRequest} {call : RuleCall}
  {book : RuleBook} {write : RuleWrite}

/-- A change that can be filed succeeds. -/
theorem answer_of_filed (keeps : setup.KeepsRules) (made : ruleCall? request = some call)
    (changes : call.Changes service.engine book write) {outside : σ}
    (filed : setup.saveRule write service.engine.outside = .ok outside) :
    ∃ success, service.answer setup request
        = ({ service with engine := { service.engine with book, outside } }, success) ∧
      success.isError = false := by
  have served := respond_of_ruleCall keeps made service
  obtain ⟨success, change, fine⟩ := changes.change_eq setup.time
  simp only [serveCall, change, RuleChange.file, filed] at served
  obtain ⟨answer, given, same, -⟩ := exists_answer served
  exact ⟨answer, given, same.trans fine⟩

/-- A change that cannot be filed is made, and the request fails. -/
theorem answer_of_unfiled (keeps : setup.KeepsRules) (made : ruleCall? request = some call)
    (changes : call.Changes service.engine book write) {e : StorageError}
    (unfiled : setup.saveRule write service.engine.outside = .error e) :
    service.answer setup request
      = ({ service with engine := { service.engine with book } }, .fail (.storage e)) := by
  have served := respond_of_ruleCall keeps made service
  obtain ⟨success, change, -⟩ := changes.change_eq setup.time
  simp only [serveCall, change, RuleChange.file, unfiled] at served
  obtain ⟨answer, given, -, failed⟩ := exists_answer served
  exact failed _ rfl ▸ given

/-- A request about rules that makes no change is refused. -/
theorem answer_of_unchanged (about : request.isAboutRules = true)
    (h : ∀ call book write, setup.KeepsRules → ruleCall? request = some call →
      ¬ call.Changes service.engine book write) :
    ∃ refusal, service.answer setup request = (service, refusal) ∧ refusal.isError = true := by
  have refused : ∃ refusal, respond setup service request.method.toUpper
      (Url.rootPath request.target) request.body = (service, refusal) ∧
      refusal.isError = true := by
    by_cases keeps : setup.KeepsRules
    · cases made : ruleCall? request with
      | none => exact respond_of_isAboutRules about service fun _ => made
      | some call =>
        rcases call.change_cases service.engine setup.time with
          ⟨book, write, changes⟩ | ⟨refusal, change, error⟩
        · exact absurd changes (h call book write keeps made)
        · refine ⟨refusal, ?_, error⟩
          rw [respond_of_ruleCall keeps made]
          simp only [serveCall, change, RuleChange.file]
    · exact respond_of_isAboutRules about service fun kept => absurd kept keeps
  obtain ⟨refusal, refused, error⟩ := refused
  obtain ⟨answer, given, same, -⟩ := exists_answer refused
  exact ⟨answer, given, same.trans error⟩

end

end Service

end HomeAutomation
