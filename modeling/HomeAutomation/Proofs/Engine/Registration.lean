/-
  HomeAutomation.Proofs.Engine.Registration

  What registering and removing a rule does, and what it leaves alone.  Whatever
  happens to the rule of one name, the other rules keep their places, actions
  keep what is noted on them, and of the events only the lists of actions
  change.

  `Activity.Reached.correspondence` puts this beside the correspondence of
  rules, events and actions, which holds in every reachable activity.
-/

import HomeAutomation.Proofs.Engine.Correspondence

namespace HomeAutomation

/-- Whether a condition is that of the text of a rule. -/
def Handle.watches (handle : Handle) (range : SetPointRange) (c : Condition) : Bool :=
  (Rule.parse range handle.text).toOption.any (·.condition.same c)

theorem Handle.watches_iff {handle : Handle} {range : SetPointRange} {c : Condition} :
    handle.watches range c = true
      ↔ ∃ rule, Rule.parse range handle.text = .ok rule ∧ rule.condition.same c = true := by
  unfold watches
  cases Rule.parse range handle.text <;> simp [Except.toOption]

namespace RuleBook

variable {range : SetPointRange} {book book' : RuleBook}

-- ============================================================================
-- Correspondence, by the texts of the rules
-- ============================================================================

/-- Rules, events and actions correspond. -/
structure Corresponding (range : SetPointRange) (book : RuleBook) : Prop where
  names : book.rules.names.Nodup
  /-- Each rule goes by its name, and its event and its action are those of its text. -/
  ruled : ∀ entry ∈ book.rules, entry.2.ruleId = entry.1 ∧
    ∃ rule, Rule.parse range entry.2.text = .ok rule ∧
      entry.2.event ∈ book.events.registered ∧
      (∃ e, book.events.event? entry.2.event = some e ∧
        e.condition.same rule.condition = true) ∧
      book.plan? entry.2.action = some ⟨entry.1, rule.action, .ofSpec rule.action, none, false⟩
  /-- No two registered events have one condition. -/
  distinct : ∀ id ∈ book.events.registered, ∀ id' ∈ book.events.registered,
    ∀ e e', book.events.event? id = some e → book.events.event? id' = some e' →
      e.condition.same e'.condition = true → id = id'
  /-- The conditions of the registered events are those of the rules. -/
  conditions : ∀ c, book.events.contains c = book.rules.any (·.2.watches range c)
  /-- The actions of a registered event are those of the rules on its condition, in the order of
      the rules, and there is one. -/
  actions : ∀ id ∈ book.events.registered, ∃ e, book.events.event? id = some e ∧
    e.actions = (book.rules.filter (·.2.watches range e.condition)).map (·.2.action) ∧
    e.actions ≠ []

/-- The rules that wait for an event are those with its condition. -/
theorem Linked.watches_iff (linked : Linked range book) {id : Nat} {e : Event Nat}
    (registered : id ∈ book.events.registered) (he : book.events.event? id = some e)
    {entry : String × Handle} (h : entry ∈ book.rules) :
    entry.2.watches range e.condition = true ↔ entry.2.event = id := by
  obtain ⟨rule, backed⟩ := linked.backed entry h
  obtain ⟨e', he', same'⟩ := backed.watches
  rw [Handle.watches_iff]
  constructor
  · rintro ⟨rule', parsed, same⟩
    obtain rfl : rule = rule' := Except.ok.inj (backed.parsed.symm.trans parsed)
    exact linked.distinct backed.registered registered he' he (Condition.same_trans same' same)
  · rintro rfl
    obtain rfl : e = e' := Option.some.inj (he.symm.trans he')
    exact ⟨rule, backed.parsed, Condition.same_symm same'⟩

theorem Linked.actionsOn_eq (linked : Linked range book) {id : Nat} {e : Event Nat}
    (registered : id ∈ book.events.registered) (he : book.events.event? id = some e) :
    actionsOn book.rules id
      = (book.rules.filter (·.2.watches range e.condition)).map (·.2.action) := by
  refine congrArg _ (List.filter_congr fun entry h => ?_)
  rw [Bool.eq_iff_iff, decide_eq_true_iff, linked.watches_iff registered he h]

theorem Linked.corresponding (linked : Linked range book) (sound : book.Sound) :
    book.Corresponding range := by
  refine ⟨linked.names, ?ruled, fun _ hid _ hid' _ _ => linked.distinct hid hid', ?conditions,
    ?actions⟩
  case ruled =>
    intro entry h
    obtain ⟨rule, backed⟩ := linked.backed entry h
    exact ⟨backed.named, rule, backed.parsed, backed.registered, backed.watches, backed.plan⟩
  case conditions =>
    intro c
    rw [Bool.eq_iff_iff, EventRegistry.contains_iff, List.any_eq_true]
    constructor
    · rintro ⟨id, registered, e, he, same⟩
      obtain ⟨action, h⟩ := List.exists_mem_of_ne_nil _ (linked.waited id registered)
      obtain ⟨entry, h, -⟩ := List.mem_map.1 h
      obtain ⟨h, waits⟩ := List.mem_filter.1 h
      have watches := (linked.watches_iff registered he h).2 (of_decide_eq_true waits)
      obtain ⟨rule, parsed, same'⟩ := Handle.watches_iff.1 watches
      exact ⟨entry, h, Handle.watches_iff.2 ⟨rule, parsed, Condition.same_trans same' same⟩⟩
    · rintro ⟨entry, h, watches⟩
      obtain ⟨rule, backed⟩ := linked.backed entry h
      obtain ⟨rule', parsed, same⟩ := Handle.watches_iff.1 watches
      obtain rfl : rule = rule' := Except.ok.inj (backed.parsed.symm.trans parsed)
      obtain ⟨e, he, same'⟩ := backed.watches
      exact ⟨_, backed.registered, e, he, Condition.same_trans same' same⟩
  case actions =>
    intro id registered
    obtain ⟨e, he⟩ : ∃ e, book.events.event? id = some e :=
      ⟨_, List.getElem?_eq_getElem (sound.indexed.bounded id registered)⟩
    have actions := linked.actions registered he
    exact ⟨e, he, actions.trans (linked.actionsOn_eq registered he),
      actions ▸ linked.waited id registered⟩

-- ============================================================================
-- What is left alone
-- ============================================================================

/-- A rule that is entered comes last. -/
theorem rules_enter {name : String} {rule : Rule} (ruled : rule.condition.Ruled)
    (fresh : book.rules.has name = false) (text : String) :
    ∃ handle : Handle, (book.enter name text rule).2 = handle ∧ handle.ruleId = name ∧
      handle.text = text ∧ (book.enter name text rule).1.rules = book.rules ++ [(name, handle)] := by
  rcases getOrCreate_cases ruled book.events with ⟨_, _, -, -, -, found⟩ | ⟨-, made⟩
  · rw [enter_eq found]
    exact ⟨_, rfl, rfl, rfl, Table.set_of_not_has fresh _⟩
  · rw [enter_eq made]
    exact ⟨_, rfl, rfl, rfl, Table.set_of_not_has fresh _⟩

/-- What a change to the rule of a name leaves alone: the other rules, what is noted on actions,
    and of events all but their lists of actions. -/
structure Undisturbed (name : String) (book book' : RuleBook) : Prop where
  rules : book'.rules.erase name = book.rules.erase name
  actions : ∀ id a, book.action? id = some a → book'.action? id = some a
  events : ∀ id e, book.events.event? id = some e →
    ∃ actions, book'.events.event? id = some { e with actions }

namespace Undisturbed

variable {name : String}

theorem trans {a b c : RuleBook} (h : Undisturbed name a b) (h' : Undisturbed name b c) :
    Undisturbed name a c := by
  refine ⟨h'.rules.trans h.rules, fun id x hx => h'.actions id x (h.actions id x hx),
    fun id e he => ?_⟩
  obtain ⟨actions, he'⟩ := h.events id e he
  obtain ⟨actions', he''⟩ := h'.events id _ he'
  exact ⟨actions', he''⟩

theorem remove (book : RuleBook) (name : String) :
    Undisturbed name book (book.remove name).1 := by
  refine ⟨?_, fun id a ha => (book.extends_remove name).action?_eq ha, fun id e he => ?_⟩
  · rw [rules_remove]
    exact Table.erase_erase _ _
  · unfold RuleBook.remove
    split
    · exact ⟨e.actions, he⟩
    · dsimp only
      rw [EventRegistry.event?_prune, EventRegistry.event?_detach]
      split
      · exact ⟨_, by rw [he]; rfl⟩
      · exact ⟨e.actions, he⟩

theorem chooseId (book : RuleBook) (id : Option String) (name : String) :
    Undisturbed name book (book.chooseId id).1 := by
  unfold RuleBook.chooseId
  split
  · split <;> exact ⟨rfl, fun _ _ ha => ha, fun _ e he => ⟨e.actions, he⟩⟩
  · exact ⟨rfl, fun _ _ ha => ha, fun _ e he => ⟨e.actions, he⟩⟩

theorem enter (fresh : book.rules.has name = false) {rule : Rule}
    (ruled : rule.condition.Ruled) (text : String) :
    Undisturbed name book (book.enter name text rule).1 := by
  have attached {reg : EventRegistry Nat} (event action : Nat) {id : Nat} {e : Event Nat}
      (he : reg.event? id = some e) :
      ∃ actions, (reg.attach event action).event? id = some { e with actions } := by
    rw [EventRegistry.attach, EventRegistry.event?_modify, he]
    split
    · unfold Event.attach
      rw [Option.map_some]
      split
      · exact ⟨e.actions, rfl⟩
      · exact ⟨_, rfl⟩
    · exact ⟨e.actions, rfl⟩
  refine ⟨?rules, fun id a ha => (book.extends_enter name text rule).action?_eq ha, ?events⟩
  case rules =>
    obtain ⟨handle, -, -, -, rules⟩ := rules_enter ruled fresh text
    rw [rules, Table.erase_append]
    simp [Table.erase]
  case events =>
    intro id e he
    rcases getOrCreate_cases ruled book.events with ⟨_, _, -, -, -, found⟩ | ⟨-, made⟩
    · rw [enter_eq found]
      exact attached _ _ he
    · rw [enter_eq made]
      refine attached _ _ ?_
      rw [EventRegistry.event?_created, if_neg (Nat.ne_of_lt (List.getElem?_eq_some_iff.1 he).1)]
      exact he

end Undisturbed

theorem found_remove (book : RuleBook) (name : String) :
    (book.remove name).2 = book.rules.has name := by
  unfold remove rule? Table.has
  cases book.rules.get? name <;> rfl

/-- A registration puts the new rule last and leaves the others alone. -/
theorem register_spec {text : String} {id : Option String} {handle : Handle}
    (h : book.register range text id = .ok (book', handle)) :
    handle.ruleId = (book.chooseId id).2 ∧ handle.text = text ∧
      book'.rules = book.rules.erase handle.ruleId ++ [(handle.ruleId, handle)] ∧
      Undisturbed handle.ruleId book book' := by
  obtain ⟨rule, parsed, entered⟩ := exists_of_register h
  have ruled := Rule.ruled_of_parse parsed
  have fresh : ((book.chooseId id).1.remove (book.chooseId id).2).1.rules.has (book.chooseId id).2
      = false := by
    rw [rules_remove]
    exact Table.has_erase _ _
  have kept : (book.chooseId id).1.rules = book.rules := by
    unfold chooseId
    split
    · split <;> rfl
    · rfl
  obtain ⟨handle', same, name, written, rules⟩ := rules_enter ruled fresh text
  have undisturbed := ((Undisturbed.chooseId book id _).trans (.remove _ (book.chooseId id).2)).trans
    (.enter fresh ruled text)
  rw [entered] at same rules undisturbed
  obtain rfl : handle = handle' := same
  rw [rules_remove, kept] at rules
  rw [← name] at undisturbed rules
  exact ⟨name, written, rules, undisturbed⟩

end RuleBook

-- ============================================================================
-- Reached activities
-- ============================================================================

namespace Engine

variable {σ : Type} {engine engine' : Engine σ} {text : String} {id : Option String}

/-- A text is registered unless it cannot be read. -/
theorem register_eq_error {e : ParseError} :
    engine.register text id = .error e ↔ Rule.parse engine.range text = .error e := by
  unfold register RuleBook.register
  cases Rule.parse engine.range text with
  | error e' => exact ⟨fun h => by cases h; rfl, fun h => by cases h; rfl⟩
  | ok rule => exact ⟨fun h => (by cases h), fun h => (by cases h)⟩

theorem exists_of_register {handle : Handle}
    (h : engine.register text id = .ok (engine', handle)) :
    ∃ book, engine.book.register engine.range text id = .ok (book, handle) ∧
      engine' = { engine with book } := by
  unfold register at h
  cases hr : engine.book.register engine.range text id with
  | error e =>
    rw [hr] at h
    cases h
  | ok registered =>
    rw [hr] at h
    cases h
    exact ⟨_, rfl, rfl⟩

end Engine

namespace Activity

variable {σ : Type} {backend : Backend σ} {activity : Activity σ} {initial : Engine σ}
  {log : List Contact}

/-- A request that starts no task changes the rules only. -/
theorem submit_of_task?_eq_none {request : Request} {book : RuleBook}
    (idle : request.task? activity.engine.book = none)
    (changes : request.book activity.engine.range activity.engine.book = book) :
    activity.submit request = { activity with engine := { activity.engine with book } } := by
  simp [submit, idle, changes]

/-- Rules, events and actions correspond in every reachable activity.  A text that cannot be read
    changes nothing; registering and removing a rule change the rules as they should and disturb
    nothing else. -/
theorem Reached.correspondence (reached : Reached backend initial log activity) :
    activity.engine.book.Corresponding initial.range ∧
    (∀ text id e, activity.engine.register text id = .error e →
      Rule.parse initial.range text = .error e ∧
        activity.submit (.register text id) = activity) ∧
    (∀ text id engine handle, activity.engine.register text id = .ok (engine, handle) →
      activity.submit (.register text id) = { activity with engine } ∧
      engine = { activity.engine with book := engine.book } ∧
      handle.text = text ∧ (∀ name, id = some name → name ≠ "" → handle.ruleId = name) ∧
      engine.book.rules
        = activity.engine.book.rules.erase handle.ruleId ++ [(handle.ruleId, handle)] ∧
      RuleBook.Undisturbed handle.ruleId activity.engine.book engine.book) ∧
    (∀ name engine found, activity.engine.remove name = (engine, found) →
      activity.submit (.remove name) = { activity with engine } ∧
      engine = { activity.engine with book := engine.book } ∧
      engine.book.rules = activity.engine.book.rules.erase name ∧
      found = activity.engine.book.rules.has name ∧
      RuleBook.Undisturbed name activity.engine.book engine.book) ∧
    ∀ handle : Handle, activity.submit (.removeHandle handle)
      = activity.submit (.remove handle.ruleId) := by
  refine ⟨reached.linked.corresponding reached.sound, ?refused, ?registered, ?removed,
    fun _ => rfl⟩
  case refused =>
    intro text id e h
    have unread := Engine.register_eq_error.1 h
    refine ⟨reached.range_eq ▸ unread, ?_⟩
    refine submit_of_task?_eq_none rfl ?_
    simp only [Request.book, RuleBook.register, unread]
    rfl
  case registered =>
    intro text id engine handle h
    obtain ⟨book, registered, rfl⟩ := Engine.exists_of_register h
    obtain ⟨name, written, rules, undisturbed⟩ := RuleBook.register_spec registered
    refine ⟨submit_of_task?_eq_none rfl (by simp only [Request.book, registered]), rfl, written, ?_,
      rules, undisturbed⟩
    rintro given rfl filled
    rw [name, RuleBook.chooseId, if_neg (by simpa using filled)]
  case removed =>
    intro name engine found h
    obtain rfl : (activity.engine.remove name).1 = engine := congrArg Prod.fst h
    obtain rfl : (activity.engine.remove name).2 = found := congrArg Prod.snd h
    exact ⟨submit_of_task?_eq_none rfl rfl, rfl, RuleBook.rules_remove _ _,
      RuleBook.found_remove _ _, .remove _ _⟩

/-- A hall whose air conditioner and lamp go on in the heat, by two rules that word it
    differently. -/
def hotHall : Activity Unit :=
  let engine : Engine Unit :=
    { directory := .ofRooms
        [⟨"hall", .null, [⟨"ac", .null, "ac", "hall"⟩, ⟨"lamp", .null, "light", "hall"⟩]⟩]
      range := ⟨16, 30⟩
      outside := () }
  ((({ engine } : Activity _).submit
    (.register "if temp > 25 in hall then ac on" (some "cool"))).submit
      (.register "if temperature > 25.0 in Hall then light on" (some "light"))).submit
        (.process (.object [("temperature", .object [("hall", .integer 30)])]))

/-- While the two rules are carried out, one is given another condition. -/
theorem correspondence_hotHall : ∃ (initial : Engine Unit) (log : List Contact)
      (activity : Activity Unit),
    Reached Backend.obliging initial log activity ∧
      activity.tasks.map isFinished = [false, false, false] ∧
      activity.engine.book.rules.names = ["light", "cool"] ∧
      activity.engine.book.events.registered = [0, 1] ∧
      activity.engine.book.Corresponding initial.range := by
  have run : (hotHall.follow Backend.obliging [0, 0, 1, 1]).map (fun f =>
        let activity := f.2.submit (.register "if motion in hall then ac on" (some "cool"))
        (activity.tasks.map isFinished, activity.engine.book.rules.names,
          activity.engine.book.events.registered))
      = some ([false, false, false], ["light", "cool"], [0, 1]) := by decide +kernel
  obtain ⟨⟨log, activity⟩, followed, view⟩ := Option.map_eq_some_iff.1 run
  obtain ⟨unfinished, view⟩ := Prod.mk.inj view
  obtain ⟨names, registered⟩ := Prod.mk.inj view
  have reached := (((((Reached.start rfl).submit _).submit _).submit _).steps
    (Steps.of_follow followed)).submit
      (.register "if motion in hall then ac on" (some "cool"))
  exact ⟨_, log, _, reached, unfinished, names, registered, reached.correspondence.1⟩

end Activity

end HomeAutomation
