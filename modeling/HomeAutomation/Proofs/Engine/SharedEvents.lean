/-
  HomeAutomation.Proofs.Engine.SharedEvents

  Conditions are shared by what they mean.  Two rules have one event if and only
  if their conditions agree in the metric, the comparison, the number and the
  location that were read, in whatever way they were spelled; what one of two such
  conditions finds of a reading, the other finds as well.
-/

import HomeAutomation.Proofs.Engine.Correspondence
import HomeAutomation.Proofs.Rule.Spelling

namespace HomeAutomation

namespace RuleBook

variable {range : SetPointRange} {book : RuleBook} {text text' : String} {c c' : Condition}

/-- A rule waits at an event of the condition that is read from its text. -/
theorem Linked.exists_event (linked : Linked range book) {entry : String × Handle}
    (h : entry ∈ book.rules) (uses : Rule.Uses entry.2.text text)
    (read : Condition.parse text = .ok c) :
    entry.2.event ∈ book.events.registered ∧ ∃ e, book.events.event? entry.2.event = some e ∧
      e.condition.same c = true ∧ entry.2.action ∈ e.actions := by
  obtain ⟨rule, backed⟩ := linked.backed entry h
  obtain ⟨e, he, same⟩ := backed.watches
  have condition : rule.condition = c :=
    Except.ok.inj ((uses.parse_condition backed.parsed).symm.trans read)
  have waits : entry.2.action ∈ e.actions := by
    rw [linked.actions backed.registered he]
    exact mem_actionsOn h
  exact ⟨backed.registered, e, he, condition ▸ same, waits⟩

/-- Rules have one event if and only if their conditions are the same. -/
theorem Linked.event_eq_iff (linked : Linked range book) {entry entry' : String × Handle}
    (h : entry ∈ book.rules) (h' : entry' ∈ book.rules) (uses : Rule.Uses entry.2.text text)
    (uses' : Rule.Uses entry'.2.text text') (read : Condition.parse text = .ok c)
    (read' : Condition.parse text' = .ok c') :
    entry.2.event = entry'.2.event ↔ c.same c' = true := by
  obtain ⟨registered, e, he, same, -⟩ := linked.exists_event h uses read
  obtain ⟨registered', e', he', same', -⟩ := linked.exists_event h' uses' read'
  constructor
  · intro shared
    rw [shared, he'] at he
    obtain rfl := Option.some.inj he
    exact Condition.same_trans (Condition.same_symm same) same'
  · intro meaning
    exact linked.distinct registered registered' he he'
      (Condition.same_trans (Condition.same_trans same meaning) (Condition.same_symm same'))

end RuleBook

namespace Activity

variable {σ : Type} {backend : Backend σ} {initial : Engine σ} {log : List Contact}
  {activity : Activity σ}

/-- Conditions are shared by meaning.  A comparison is read from every spelling of it, in letters of
    either case.  Two comparisons are the same if and only if they agree in metric, comparison,
    number and location; conditions that are the same find the same of every reading; and
    rules with the one and the other wait at one event if and only if they are the same. -/
theorem Reached.conditions_by_meaning (reached : Reached backend initial log activity) :
    (∀ (metric : String) (value : Double) (s : Condition.Spelling metric value)
      (comparison : Comparison) (text : String),
      Text.lower text = Text.lower (s.text comparison) →
      Condition.parse text = .ok (.compare metric comparison value (ruleLocation s.place))) ∧
    ∀ (text text' : String) (c c' : Condition),
      Condition.parse text = .ok c → Condition.parse text' = .ok c' →
      (∀ metric metric' comparison comparison' value value' location location',
        c = .compare metric comparison value location →
        c' = .compare metric' comparison' value' location' →
        (c.same c' = true ↔ metric = metric' ∧ comparison = comparison' ∧
          value.eq value' = true ∧ location = location')) ∧
      (c.same c' = true →
        c.key = c'.key ∧ ∀ reading, c.evaluate reading = c'.evaluate reading) ∧
      ∀ entry ∈ activity.engine.book.rules, ∀ entry' ∈ activity.engine.book.rules,
        Rule.Uses entry.2.text text → Rule.Uses entry'.2.text text' →
        (entry.2.event = entry'.2.event ↔ c.same c' = true) ∧
        ∃ e, activity.engine.book.events.event? entry.2.event = some e ∧
          e.condition.same c = true ∧ entry.2.action ∈ e.actions := by
  refine ⟨fun metric value s comparison text letters => s.parse_eq comparison letters,
    fun text text' c c' read read' => ⟨?fields, Condition.alike_of_same, ?events⟩⟩
  case fields =>
    rintro metric metric' comparison comparison' value value' location location' rfl rfl
    exact Condition.same_compare_iff
  case events =>
    intro entry h entry' h' uses uses'
    exact ⟨reached.linked.event_eq_iff h h' uses uses' read read',
      (reached.linked.exists_event h uses read).2⟩

theorem denotes_degrees : Denotes "25" 25 ∧ Denotes "2_5.0E0" 25 :=
  ⟨⟨by decide +kernel, by decide +kernel⟩, by decide +kernel, by decide +kernel⟩

theorem normalWords_hall :
    Text.normalWords "hall" = ["hall"] ∧ Text.normalWords "Hall" = ["hall"] := by
  decide +kernel

/-- More than 25 degrees in the hall. -/
def warm : Condition.Spelling "temperature" 25 where
  word := "temp"
  numeral := "25"
  place := "hall"
  left := " "
  right := " "
  known := by simp [metricWords]
  isWord := .of_all (by decide) (by decide)
  number := denotes_degrees.1
  filled := by simp [normalWords_hall]
  blank := by decide
  apart := by decide

/-- The same in another spelling, without blanks around the sign. -/
def warmTight : Condition.Spelling "temperature" 25 where
  word := "temperature"
  numeral := "2_5.0E0"
  place := "Hall"
  after := "\t "
  known := by simp [metricWords]
  isWord := .of_all (by decide) (by decide)
  number := denotes_degrees.2
  filled := by simp [normalWords_hall]
  blank := by decide
  apart := by decide

/-- A hall with two rules for more than 25 degrees, spelled differently, and one for 25 or more. -/
def warmHall : Activity Unit :=
  let engine : Engine Unit :=
    { directory := .ofRooms
        [⟨"hall", .null, [⟨"ac", .null, "ac", "hall"⟩, ⟨"lamp", .null, "light", "hall"⟩]⟩]
      range := ⟨16, 30⟩
      outside := () }
  ((({ engine } : Activity _).submit
    (.register "if temp > 25 in hall then ac on" (some "cool"))).submit
      (.register "If TEMPERATURE>2_5.0e0 in\t hall then light on" (some "light"))).submit
        (.register "if temp >= 25 in hall then light off" (some "dark"))

/-- The first two rules have one event, and the third has another. -/
theorem conditions_by_meaning_warmHall : ∃ (initial : Engine Unit) (log : List Contact)
      (cool light dark : Handle), Reached Backend.obliging initial log warmHall ∧
    warmHall.engine.book.rules = [("cool", cool), ("light", light), ("dark", dark)] ∧
    cool.event = light.event ∧ cool.event ≠ dark.event := by
  have reached : Reached Backend.obliging _ [] warmHall :=
    (((Reached.start rfl).submit _).submit _).submit _
  let cool : Handle := ⟨"cool", "if temp > 25 in hall then ac on", 0, 0⟩
  let light : Handle := ⟨"light", "If TEMPERATURE>2_5.0e0 in\t hall then light on", 0, 1⟩
  let dark : Handle := ⟨"dark", "if temp >= 25 in hall then light off", 1, 2⟩
  have rules : warmHall.engine.book.rules = [("cool", cool), ("light", light), ("dark", dark)] := by
    decide +kernel
  have mem : ("cool", cool) ∈ warmHall.engine.book.rules ∧
      ("light", light) ∈ warmHall.engine.book.rules ∧
      ("dark", dark) ∈ warmHall.engine.book.rules := by simp [rules]
  have cools : Rule.Uses "if temp > 25 in hall then ac on" "temp > 25 in hall" :=
    ⟨["ac", "on"], by decide +kernel⟩
  have lights : Rule.Uses "If TEMPERATURE>2_5.0e0 in\t hall then light on"
      "TEMPERATURE>2_5.0e0 in\t hall" := ⟨["light", "on"], by decide +kernel⟩
  have darks : Rule.Uses "if temp >= 25 in hall then light off" "temp >= 25 in hall" :=
    ⟨["light", "off"], by decide +kernel⟩
  obtain ⟨spelled, meaning⟩ := reached.conditions_by_meaning
  have read := spelled _ _ warm .greater "temp > 25 in hall" (by decide +kernel)
  have readTight := spelled _ _ warmTight .greater "TEMPERATURE>2_5.0e0 in\t hall"
    (by decide +kernel)
  have readLeast := spelled _ _ warm .atLeast "temp >= 25 in hall" (by decide +kernel)
  obtain ⟨fields, -, events⟩ := meaning _ _ _ _ read readTight
  obtain ⟨fields', -, events'⟩ := meaning _ _ _ _ read readLeast
  refine ⟨_, _, cool, light, dark, reached, rules, ?_, ?_⟩
  · refine (events _ mem.1 _ mem.2.1 cools lights).1.2 ?_
    exact (fields _ _ _ _ _ _ _ _ rfl rfl).2 ⟨rfl, rfl, by decide +kernel, by decide +kernel⟩
  · refine mt (events' _ mem.1 _ mem.2.2 cools darks).1.1 fun same => ?_
    cases ((fields' _ _ _ _ _ _ _ _ rfl rfl).1 same).2.1

end Activity

end HomeAutomation
