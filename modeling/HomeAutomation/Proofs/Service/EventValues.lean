/-
  HomeAutomation.Proofs.Service.EventValues

  The numbers that events hold, and the list of events.  An event on numbers
  holds the last number it has heard, be it finite or not.  The list of events
  is answered as long as every number that a registered event holds is finite:
  the thresholds, which rules have to give as finite numbers, are never in the
  way.
-/

import HomeAutomation.Proofs.Engine.Hearing
import HomeAutomation.Proofs.Engine.LostEdge
import HomeAutomation.Proofs.Rule.Grammar
import HomeAutomation.Proofs.Service.Answer
import HomeAutomation.Service.Api

namespace HomeAutomation

-- ============================================================================
-- Numbers that were heard
-- ============================================================================

namespace SensorReading

/-- The last number in readings. -/
def lastNumber (readings : List SensorReading) : Option Double :=
  (readings.filterMap fun r => r.value.toDouble.toOption).getLast?

end SensorReading

namespace Condition

variable {c : Condition}

/-- What a condition on numbers has seen last is the last number. -/
theorem lastSeen_of_not_isMotion (numeric : c.isMotion = false) (readings : List SensorReading) :
    c.lastSeen readings = (SensorReading.lastNumber readings).map .number := by
  have sees (value : Json) : (c.see value).toOption = value.toDouble.toOption.map .number := by
    rw [see, numeric]
    cases value.toDouble <;> rfl
  simp only [lastSeen, SensorReading.lastNumber, sees]
  rw [← List.map_filterMap, List.getLast?_map]

/-- A condition on motion sees no numbers. -/
theorem lastSeen_ne_number_of_isMotion (motion : c.isMotion = true) (readings : List SensorReading)
    (d : Double) : c.lastSeen readings ≠ some (.number d) := by
  intro h
  obtain ⟨r, -, seen⟩ := List.mem_filterMap.1 (List.mem_of_getLast? h)
  rw [see, if_pos motion] at seen
  cases seen

end Condition

/-- An event holds a number if its condition is on numbers and this is the last it has heard. -/
theorem Event.Remembers.value_eq_number_iff {α : Type} {e : Event α}
    {readings : List SensorReading} (h : e.Remembers readings) (d : Double) :
    e.value = some (.number d) ↔
      e.condition.isMotion = false ∧ SensorReading.lastNumber readings = some d := by
  rw [h.value]
  cases motion : e.condition.isMotion with
  | true => simp [Condition.lastSeen_ne_number_of_isMotion motion]
  | false =>
    rw [Condition.lastSeen_of_not_isMotion motion, Option.map_eq_some_iff]
    simp

-- ============================================================================
-- Thresholds
-- ============================================================================

/-- What is equal to a finite number is finite. -/
theorem Double.isFinite_of_eq {a b : Double} (h : a.eq b = true) (finite : b.isFinite = true) :
    a.isFinite = true := by
  obtain ⟨p, placed, placed'⟩ := Double.eq_iff.1 h
  cases b with
  | nan | infinite => cases finite
  | finite negative rank =>
    have inside := rank.isLt
    cases a with
    | finite => rfl
    | nan => cases placed
    | infinite other =>
      -- the places of the infinities are one further than those of all ranks
      have far := Option.some.inj (placed.trans placed'.symm)
      cases other <;> cases negative <;> simp at far <;> omega

theorem Condition.Read.isFinite_threshold {c : Condition} (h : c.Read) {threshold : Double}
    (given : c.threshold = some threshold) : threshold.isFinite = true := by
  cases h with
  | motion => cases given
  | compare known number =>
    obtain rfl := Option.some.inj given
    exact (finiteNumber?_eq_some_iff.1 number).2

/-- The thresholds of registered events are finite. -/
theorem RuleBook.Linked.isFinite_threshold {range : SetPointRange} {book : RuleBook}
    (linked : Linked range book) {id : Nat} {e : Event Nat}
    (registered : id ∈ book.events.registered) (he : book.events.event? id = some e)
    {threshold : Double}
    (given : e.condition.threshold = some threshold) : threshold.isFinite = true := by
  obtain ⟨action, waiting⟩ := List.exists_mem_of_ne_nil _ (linked.waited id registered)
  obtain ⟨entry, waiting, -⟩ := List.mem_map.1 waiting
  obtain ⟨ruled, waits⟩ := List.mem_filter.1 waiting
  obtain rfl := of_decide_eq_true waits
  obtain ⟨rule, backed⟩ := linked.backed entry ruled
  obtain ⟨e', he', same⟩ := backed.watches
  obtain rfl : e' = e := Option.some.inj (he'.symm.trans he)
  have thresholds := (Condition.same_iff.1 same).2.2.2.1
  rw [given] at thresholds
  cases other : rule.condition.threshold with
  | none =>
    rw [other] at thresholds
    cases thresholds
  | some b =>
    rw [other] at thresholds
    exact Double.isFinite_of_eq thresholds
      ((Rule.read_of_parse backed.parsed).isFinite_threshold other)

-- ============================================================================
-- The list of events
-- ============================================================================

/-- An event can be reported if the number that it holds is finite. -/
theorem Event.isFinite_toJson_iff {α : Type} {e : Event α} (ruleIds : List String) (time : String)
    (threshold : ∀ t, e.condition.threshold = some t → t.isFinite = true) :
    (e.toJson ruleIds time).isFinite = true ↔
      ∀ d, e.value = some (.number d) → d.isFinite = true := by
  have names := RuleBook.allFinite_texts ruleIds
  have bound : (Json.ofDouble? e.condition.threshold).isFinite = true := by
    cases given : e.condition.threshold with
    | none => rfl
    | some t => exact threshold t given
  have sign : (Json.ofText? e.condition.operator).isFinite = true := by
    cases e.condition.operator <;> rfl
  have expected : (if e.condition.isMotion then Json.bool e.condition.expected
      else Json.null).isFinite = true := by
    cases e.condition.isMotion <;> rfl
  have updated : (timeJson time e.changed).isFinite = true := by
    cases h : e.changed <;> rfl
  have held : e.valueJson.isFinite = true ↔
      ∀ d, e.value = some (.number d) → d.isFinite = true := by
    unfold valueJson
    cases e.value with
    | none => simp [Json.isFinite]
    | some seen => cases seen <;> simp [EventValue.toJson, Json.isFinite]
  rw [← held]
  simp [toJson, Json.isFinite, Json.fieldsFinite, names, bound, sign, expected, updated]

theorem Json.allFinite_iff {items : List Json} :
    Json.allFinite items = true ↔ ∀ item ∈ items, item.isFinite = true := by
  induction items with
  | nil => simp [Json.allFinite]
  | cons item rest ih => simp [Json.allFinite, ih]

/-- The registered events can be reported if the numbers that they hold are finite. -/
theorem RuleBook.isFinite_eventsJson_iff {range : SetPointRange} {book : RuleBook}
    (linked : Linked range book) (time : String) :
    (book.eventsJson time).isFinite = true ↔
      ∀ id ∈ book.events.registered, ∀ e, book.events.event? id = some e →
        ∀ d, e.value = some (.number d) → d.isFinite = true := by
  have member (entry : Nat × Event Nat) : entry ∈ book.events.events ↔
      entry.1 ∈ book.events.registered ∧ book.events.event? entry.1 = some entry.2 := by
    obtain ⟨id, e⟩ := entry
    simp [EventRegistry.events, List.mem_filterMap, Option.map_eq_some_iff]
  unfold eventsJson
  rw [Json.isFinite, Json.allFinite_iff]
  constructor
  · intro h id registered e he
    have reported := h _ (List.mem_map.2 ⟨(id, e), (member (id, e)).2 ⟨registered, he⟩, rfl⟩)
    exact (Event.isFinite_toJson_iff _ _ fun t => linked.isFinite_threshold registered he).1
      reported
  · intro h item hitem
    obtain ⟨⟨id, e⟩, listed, rfl⟩ := List.mem_map.1 hitem
    obtain ⟨registered, he⟩ := (member (id, e)).1 listed
    exact (Event.isFinite_toJson_iff _ _ fun t => linked.isFinite_threshold registered he).2
      (h id registered e he)

namespace Answer

/-- Items of which nothing is kept out of answers. -/
theorem publishedItems_eq_self {items : List Json}
    (visible : ∀ item ∈ items, published item = item) :
    publishedItems items = items := by
  induction items with
  | nil => rfl
  | cons item rest ih =>
    obtain ⟨same, others⟩ := List.forall_mem_cons.1 visible
    rw [publishedItems, same, ih others]

theorem publishedItems_texts (words : List String) :
    publishedItems (words.map .text) = words.map .text := by
  refine publishedItems_eq_self fun item hitem => ?_
  obtain ⟨word, -, rfl⟩ := List.mem_map.1 hitem
  rfl

/-- Fields of which nothing is kept out of answers. -/
theorem publishedFields_eq_self {fields : Table Json}
    (visible : ∀ field ∈ fields, isInternal field.1 = false ∧ published field.2 = field.2) :
    publishedFields fields = fields := by
  induction fields with
  | nil => rfl
  | cons field rest ih =>
    obtain ⟨⟨known, same⟩, others⟩ := List.forall_mem_cons.1 visible
    rw [publishedFields, if_neg (by rw [known]; exact Bool.false_ne_true), same, ih others]

/-- Nothing of an event is kept out of answers. -/
theorem published_toJson {α : Type} (e : Event α) (ruleIds : List String) (time : String) :
    published (e.toJson ruleIds time) = e.toJson ruleIds time := by
  have sign : published (.ofText? e.condition.operator) = .ofText? e.condition.operator := by
    cases e.condition.operator <;> rfl
  have bound : published (.ofDouble? e.condition.threshold) = .ofDouble? e.condition.threshold := by
    cases e.condition.threshold <;> rfl
  have expected : published (if e.condition.isMotion then .bool e.condition.expected else .null)
      = if e.condition.isMotion then .bool e.condition.expected else .null := by
    cases e.condition.isMotion <;> rfl
  have held : published e.valueJson = e.valueJson := by
    unfold Event.valueJson
    cases e.value with
    | none => rfl
    | some seen => cases seen <;> rfl
  have updated : published (timeJson time e.changed) = timeJson time e.changed := by
    cases e.changed <;> rfl
  have keys : ∀ key ∈ ["condition", "metric", "location", "operator", "threshold", "expected",
      "current_value", "state", "last_updated", "actions"], isInternal key = false := by
    decide +kernel
  unfold Event.toJson
  rw [published, publishedFields_eq_self]
  simpa [sign, bound, expected, held, updated, publishedItems_texts, published] using keys

/-- Nothing of the list of events is kept out of answers. -/
theorem published_events (book : RuleBook) (time : String) :
    published (.object [("events", book.eventsJson time)])
      = .object [("events", book.eventsJson time)] := by
  have same : published (book.eventsJson time) = book.eventsJson time := by
    unfold RuleBook.eventsJson
    rw [published, publishedItems_eq_self fun item hitem => ?_]
    obtain ⟨⟨id, e⟩, -, rfl⟩ := List.mem_map.1 hitem
    exact published_toJson e _ time
  have key : isInternal "events" = false := by decide +kernel
  rw [published, publishedFields_eq_self (by simp [same, key])]

end Answer

namespace Service

variable {σ : Type}

/-- The list of events is answered if the numbers that registered events hold are finite, and else
    the request fails. -/
theorem serve_listEvents {range : SetPointRange} (setup : Setup σ) (service : Service σ)
    (linked : RuleBook.Linked range service.engine.book) (body : Option Json) :
    ((∀ id ∈ service.engine.book.events.registered, ∀ e,
        service.engine.book.events.event? id = some e →
        ∀ d, e.value = some (.number d) → d.isFinite = true) ∧
      serve setup service .listEvents body = (service, .respond 200
        (.object [("events", service.engine.book.eventsJson setup.time)]))) ∨
    (∃ id ∈ service.engine.book.events.registered, ∃ e,
        service.engine.book.events.event? id = some e ∧
        ∃ d, e.value = some (.number d) ∧ d.isFinite = false) ∧
      serve setup service .listEvents body = (service, .fail .unwritable) := by
  have reported := RuleBook.isFinite_eventsJson_iff linked setup.time
  have listed : (Json.object [("events", service.engine.book.eventsJson setup.time)]).isFinite
      = (service.engine.book.eventsJson setup.time).isFinite := by
    simp [Json.isFinite, Json.fieldsFinite]
  unfold serve Answer.success Answer.write
  dsimp only
  rw [Answer.published_events, listed]
  by_cases finite : (service.engine.book.eventsJson setup.time).isFinite = true
  · exact .inl ⟨reported.1 finite, by rw [if_pos finite]⟩
  · refine .inr ⟨?_, by rw [if_neg finite]⟩
    rw [reported] at finite
    simpa using finite

end Service

namespace Activity

variable {σ : Type}

/-- The numbers that events hold.  Whatever activity is reached, events have heard readings on the
    way.  Every event on numbers holds the last number that it has heard, and its state tells
    whether its condition holds for it.  The list of events is answered if the last numbers that
    registered events have heard are finite; if one is not, the request fails. -/
theorem event_values (backend : Backend σ) (initial : Engine σ) :
    (∀ log activity, Reached backend initial log activity →
      ∃ heard, Heard backend initial heard activity) ∧
    ∀ heard activity, Heard backend initial heard activity →
      (∀ id e, activity.engine.book.events.event? id = some e → e.condition.isMotion = false →
        e.value = (SensorReading.lastNumber (heard.readingsOf id)).map .number ∧
        e.state = e.condition.holdsFor e.value) ∧
      ∀ (setup : Setup σ) (service : Service σ) body, service.engine = activity.engine →
        ((∀ id ∈ activity.engine.book.events.registered, ∀ e,
            activity.engine.book.events.event? id = some e → e.condition.isMotion = false →
            ∀ d, SensorReading.lastNumber (heard.readingsOf id) = some d → d.isFinite = true) →
          Service.serve setup service .listEvents body = (service, .respond 200
            (.object [("events", activity.engine.book.eventsJson setup.time)]))) ∧
        ((∃ id ∈ activity.engine.book.events.registered, ∃ e,
            activity.engine.book.events.event? id = some e ∧ e.condition.isMotion = false ∧
            ∃ d, SensorReading.lastNumber (heard.readingsOf id) = some d ∧ d.isFinite = false) →
          Service.serve setup service .listEvents body = (service, .fail .unwritable)) := by
  refine ⟨fun log activity reached => reached.exists_heard, fun heard activity past => ?_⟩
  have remembers {id : Nat} {e : Event Nat}
      (he : activity.engine.book.events.event? id = some e) := past.remembering.remembers he
  obtain ⟨log, reached⟩ := past.exists_reached
  refine ⟨fun id e he numeric => ⟨?_, (remembers he).state⟩, ?_⟩
  · rw [(remembers he).value, Condition.lastSeen_of_not_isMotion numeric]
  · rintro setup service body same
    have answered := Service.serve_listEvents setup service (same ▸ reached.linked) body
    rw [same] at answered
    rcases answered with ⟨finite, answered⟩ | ⟨⟨id, registered, e, he, d, held, infinite⟩, answered⟩
    · refine ⟨fun _ => answered, ?_⟩
      rintro ⟨id, registered, e, he, numeric, d, last, infinite⟩
      have held := ((remembers he).value_eq_number_iff d).2 ⟨numeric, last⟩
      rw [finite id registered e he d held] at infinite
      cases infinite
    · refine ⟨fun finite => ?_, fun _ => answered⟩
      obtain ⟨numeric, last⟩ := ((remembers he).value_eq_number_iff d).1 held
      rw [finite id registered e he numeric d last] at infinite
      cases infinite

/-- A sensor in the kitchen that does not know. -/
def unknownKitchen : Json := .object [("temp", .object [("kitchen", .text "nan")])]

theorem exists_reached_unknownKitchen : ∃ (initial : Engine Unit) (log : List Contact)
      (activity : Activity Unit) (e : Event Nat),
    Reached Backend.obliging initial log activity ∧ 0 ∈ activity.engine.book.events.registered ∧
      activity.engine.book.events.event? 0 = some e ∧ e.condition.isMotion = false ∧
      e.value = some (.number .nan) := by
  have run : ((warmHome.submit (.process unknownKitchen)).follow Backend.obliging [0, 0]).map
        (fun f => (f.2.engine.book.events.registered,
          (f.2.engine.book.events.event? 0).map fun e => (e.condition.isMotion, e.value)))
      = some ([0, 1], some (false, some (.number .nan))) := by decide +kernel
  obtain ⟨⟨log, activity⟩, followed, run⟩ := Option.map_eq_some_iff.1 run
  obtain ⟨registered, run⟩ := Prod.mk.inj run
  obtain ⟨e, event, run⟩ := Option.map_eq_some_iff.1 run
  obtain ⟨numeric, held⟩ := Prod.mk.inj run
  obtain ⟨initial, reached⟩ := reached_warmHome
  refine ⟨initial, [] ++ log, activity, e,
    (reached.submit (.process unknownKitchen)).steps (.of_follow followed), ?_, event, numeric,
    held⟩
  dsimp only at registered
  rw [registered]
  exact List.mem_cons_self

/-- The last number that the event of the kitchen has heard is none. -/
theorem event_values_unknownKitchen : ∃ (initial : Engine Unit) (heard : Deliveries)
      (activity : Activity Unit),
    Heard Backend.obliging initial heard activity ∧
      SensorReading.lastNumber (heard.readingsOf 0) = some .nan := by
  obtain ⟨initial, log, activity, e, reached, -, event, numeric, held⟩ :=
    exists_reached_unknownKitchen
  obtain ⟨heard, past⟩ := (event_values Backend.obliging initial).1 log activity reached
  have value := (((event_values Backend.obliging initial).2 heard activity past).1 0 e event
    numeric).1
  rw [held] at value
  obtain ⟨d, last, same⟩ := Option.map_eq_some_iff.1 value.symm
  cases same
  exact ⟨initial, heard, activity, past, last⟩

/-- The event of the kitchen holds what is no number, and the list of events cannot be answered. -/
theorem event_value_nan_unknownKitchen : ∃ (initial : Engine Unit) (log : List Contact)
      (activity : Activity Unit) (e : Event Nat),
    Reached Backend.obliging initial log activity ∧ 0 ∈ activity.engine.book.events.registered ∧
      activity.engine.book.events.event? 0 = some e ∧ e.condition.isMotion = false ∧
      e.value = some (.number .nan) ∧
      ∀ (setup : Setup Unit) (service : Service Unit) body, service.engine = activity.engine →
        Service.serve setup service .listEvents body = (service, .fail .unwritable) := by
  obtain ⟨initial, log, activity, e, reached, registered, event, numeric, held⟩ :=
    exists_reached_unknownKitchen
  refine ⟨initial, log, activity, e, reached, registered, event, numeric, held,
    fun setup service body same => ?_⟩
  rcases Service.serve_listEvents setup service (same ▸ reached.linked) body with
    ⟨finite, -⟩ | ⟨-, failed⟩
  · rw [same] at finite
    cases finite 0 registered e event .nan held
  · exact failed

end Activity

end HomeAutomation
