/-
  HomeAutomation.Proofs.Service.Answer

  Answers: which are errors, and what can be written.  A value whose numbers are
  finite can be written whole, and a rule that was registered is reported by one.
-/

import HomeAutomation.Engine.Report
import HomeAutomation.Proofs.Engine.Registration
import HomeAutomation.Proofs.Rule.Acceptance
import HomeAutomation.Proofs.Rule.Limits
import HomeAutomation.Service.Answer

namespace HomeAutomation

namespace Answer

/-- Whether an answer tells that a request came to nothing. -/
def isError : Answer → Bool
  | .respond status _ | .bare status => decide (400 ≤ status)
  | .invalid _ | .fail _ => true

@[simp] theorem isError_withoutBody (answer : Answer) :
    answer.withoutBody.isError = answer.isError := by
  cases answer <;> rfl

-- ============================================================================
-- Answers that can be written
-- ============================================================================

mutual

theorem isFinite_published (value : Json) (finite : value.isFinite = true) :
    (published value).isFinite = true := by
  cases value with
  | list items =>
    rw [published, Json.isFinite]
    exact allFinite_publishedItems items finite
  | object fields =>
    rw [published, Json.isFinite]
    exact fieldsFinite_publishedFields fields finite
  | _ => exact finite

theorem allFinite_publishedItems (items : List Json) (finite : Json.allFinite items = true) :
    Json.allFinite (publishedItems items) = true := by
  cases items with
  | nil => rfl
  | cons item rest =>
    obtain ⟨first, others⟩ := Bool.and_eq_true_iff.1 finite
    rw [publishedItems, Json.allFinite, isFinite_published item first,
      allFinite_publishedItems rest others]
    rfl

theorem fieldsFinite_publishedFields (fields : List (String × Json))
    (finite : Json.fieldsFinite fields = true) :
    Json.fieldsFinite (publishedFields fields) = true := by
  cases fields with
  | nil => rfl
  | cons field rest =>
    obtain ⟨key, value⟩ := field
    obtain ⟨first, others⟩ := Bool.and_eq_true_iff.1 finite
    have kept := fieldsFinite_publishedFields rest others
    rw [publishedFields]
    split
    · exact kept
    · rw [Json.fieldsFinite, isFinite_published value first, kept]
      rfl

end

/-- A success whose numbers are finite is no error. -/
theorem isError_success {body : Table Json} (finite : Json.fieldsFinite body = true) :
    (success body).isError = false := by
  have written : (published (.object body)).isFinite = true := isFinite_published _ finite
  rw [success, write, if_pos written]
  rfl

theorem isError_refusal {status : Nat} (refuses : 400 ≤ status) (detail : Json) :
    (refusal status detail).isError = true := by
  unfold refusal write
  split
  · exact decide_eq_true refuses
  · rfl

theorem isError_ofIssues (issues : List BodyIssue) : (ofIssues issues).isError = true := by
  unfold ofIssues
  split <;> rfl

end Answer

-- ============================================================================
-- Reports of rules
-- ============================================================================

theorem DeviceState.isFinite_payload {s : DeviceState}
    (heat : ∀ t, s.temperature = some t → t.isFinite = true)
    (mode : ∀ value, s.mode = some value → value.isFinite = true) :
    s.payload.isFinite = true := by
  obtain ⟨power, temperature, written, brightness⟩ := s
  cases temperature <;> cases written <;> cases brightness <;>
    simp_all [payload, payloadFields, Json.isFinite, Json.fieldsFinite]

/-- The state that a rule gives its device is reported by finite numbers. -/
theorem ActionSpec.Written.isFinite_payload {range : SetPointRange} {given : String}
    {ws : List String} {p : Nat} {a : ActionSpec} (written : a.Written range given ws p) :
    ((DeviceParams.ofSpec a).desiredState a.power).payload.isFinite = true := by
  have admits := written.admits
  refine DeviceState.isFinite_payload (fun t heat => ?temperature) fun value mode => ?mode
  case temperature =>
    unfold Admits at admits
    cases device : a.device <;> rw [device] at admits <;> dsimp only at admits
    · exact (admits.2.1 t heat).1
    · rw [admits.2.1] at heat
      cases heat
    · rw [admits.2.1] at heat
      cases heat
  case mode =>
    unfold DeviceParams.ofSpec at mode
    cases device : a.device <;> rw [device] at mode <;>
      obtain ⟨word, -, rfl⟩ := Option.map_eq_some_iff.1 mode <;> rfl

namespace RuleBook

variable {range : SetPointRange} {book book' : RuleBook}

/-- The action of a rule that was registered is that of its text. -/
theorem exists_action_of_register {text : String} {id : Option String} {handle : Handle}
    (h : book.register range text id = .ok (book', handle)) :
    ∃ rule, Rule.parse range text = .ok rule ∧
      book'.action? handle.action
        = some ⟨handle.ruleId, rule.action, .ofSpec rule.action, none, false⟩ := by
  obtain ⟨rule, parsed, entered⟩ := exists_of_register h
  refine ⟨rule, parsed, ?_⟩
  generalize ((book.chooseId id).1.remove (book.chooseId id).2).1 = cleared at entered
  rcases getOrCreate_cases (Rule.ruled_of_parse parsed) cleared.events with
    ⟨_, _, -, -, -, found⟩ | ⟨-, made⟩
  · rw [enter_eq found] at entered
    cases entered
    exact List.getElem?_concat_length
  · rw [enter_eq made] at entered
    cases entered
    exact List.getElem?_concat_length

theorem allFinite_texts (words : List String) : Json.allFinite (words.map .text) = true := by
  induction words with
  | nil => rfl
  | cons word rest ih => exact ih

/-- A rule that was registered can be reported. -/
theorem isFinite_handleJson {text : String} {id : Option String} {handle : Handle}
    (h : book.register range text id = .ok (book', handle)) (time : String) :
    (book'.handleJson time handle).isFinite = true := by
  obtain ⟨rule, parsed, action⟩ := exists_action_of_register h
  obtain ⟨_, written⟩ := Rule.written_of_parse parsed
  obtain ⟨_, written⟩ := written.action
  have desired := written.isFinite_payload
  have extras := allFinite_texts rule.action.extras
  unfold handleJson
  rw [action]
  simp [Json.isFinite, Json.fieldsFinite, Action.toJson, Action.desired, timeJson, desired, extras]

end RuleBook

end HomeAutomation
