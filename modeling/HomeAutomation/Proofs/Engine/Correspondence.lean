/-
  HomeAutomation.Proofs.Engine.Correspondence

  Rules, events and actions belong together.  Every registered rule has one
  action, which waits for the one event of the rule's condition; the actions of
  an event are those of its rules, in the order of the rules, and an event
  without rules is not registered.  `RuleBook.Linked` says this of a rule book,
  and every request, snapshot and step keeps it.
-/

import HomeAutomation.Proofs.Engine.Observation
import HomeAutomation.Proofs.Rule.Sameness
import HomeAutomation.Proofs.Table

namespace HomeAutomation

-- ============================================================================
-- Actions of an event
-- ============================================================================

/-- The actions of the rules on an event, in the order of the rules. -/
def actionsOn (rules : Table Handle) (event : Nat) : List Nat :=
  (rules.filter (·.2.event = event)).map (·.2.action)

section ActionsOn

variable {rules : Table Handle} {name : String} {handle : Handle} {event : Nat}

theorem mem_actionsOn (h : (name, handle) ∈ rules) :
    handle.action ∈ actionsOn rules handle.event :=
  List.mem_map.2 ⟨(name, handle), List.mem_filter.2 ⟨h, by simp⟩, rfl⟩

theorem actionsOn_append (rules more : Table Handle) (event : Nat) :
    actionsOn (rules ++ more) event = actionsOn rules event ++ actionsOn more event := by
  simp [actionsOn]

/-- Taking out a rule leaves the actions of other events alone. -/
theorem actionsOn_erase_ne (nodup : rules.names.Nodup) (h : (name, handle) ∈ rules)
    (other : handle.event ≠ event) : actionsOn (rules.erase name) event = actionsOn rules event := by
  unfold actionsOn Table.erase
  rw [List.filter_filter]
  refine congrArg (List.map _) (List.filter_congr fun entry he => ?_)
  by_cases hn : entry.1 = name
  · have same : entry.2 = handle := Table.eq_of_mem nodup (hn ▸ he) h
    simp [hn, same, other]
  · simp [hn]

/-- Taking out a rule takes its action from those of its event. -/
theorem actionsOn_erase_self (nodup : rules.names.Nodup) (h : (name, handle) ∈ rules)
    (actions : (actionsOn rules handle.event).Nodup) :
    actionsOn (rules.erase name) handle.event
      = (actionsOn rules handle.event).erase handle.action := by
  rw [actions.erase_eq_filter]
  unfold actionsOn Table.erase
  rw [List.filter_map, List.filter_filter, List.filter_filter]
  refine congrArg (List.map _) (List.filter_congr fun entry he => ?_)
  by_cases watches : entry.2.event = handle.event
  · have key : entry.1 = name ↔ entry.2.action = handle.action := by
      constructor
      · rintro rfl
        exact congrArg Handle.action (Table.eq_of_mem nodup he h)
      · intro same
        have both := List.inj_on_of_nodup_map actions (List.mem_filter.2 ⟨he, by simp [watches]⟩)
          (List.mem_filter.2 ⟨h, by simp⟩) same
        exact congrArg Prod.fst both
    simp only [watches, key, Function.comp_apply, decide_true, Bool.true_and, Bool.and_true, ne_eq,
      bne, decide_not]
    rfl
  · simp [watches]

end ActionsOn

-- ============================================================================
-- The invariant
-- ============================================================================

namespace RuleBook

/-- What stands behind a registered rule: its text was read, its event is registered and has its
    condition, and its action is the one of the text. -/
structure Backed (range : SetPointRange) (book : RuleBook) (name : String) (handle : Handle)
    (rule : Rule) : Prop where
  named : handle.ruleId = name
  parsed : Rule.parse range handle.text = .ok rule
  registered : handle.event ∈ book.events.registered
  watches : ∃ e, book.events.event? handle.event = some e ∧
    e.condition.same rule.condition = true
  plan : book.plan? handle.action = some ⟨name, rule.action, .ofSpec rule.action, none, false⟩

/-- Rules, events and actions belong together, though an event may still be without rules. -/
structure Wired (range : SetPointRange) (book : RuleBook) : Prop where
  names : book.rules.names.Nodup
  backed : ∀ entry ∈ book.rules, ∃ rule, Backed range book entry.1 entry.2 rule
  distinct : ∀ {id id' : Nat} {e e' : Event Nat}, id ∈ book.events.registered →
    id' ∈ book.events.registered → book.events.event? id = some e →
    book.events.event? id' = some e' → e.condition.same e'.condition = true → id = id'
  actions : ∀ {id : Nat} {e : Event Nat}, id ∈ book.events.registered →
    book.events.event? id = some e → e.actions = actionsOn book.rules id

/-- Rules, events and actions belong together. -/
structure Linked (range : SetPointRange) (book : RuleBook) : Prop extends Wired range book where
  waited : ∀ id ∈ book.events.registered, actionsOn book.rules id ≠ []

variable {range : SetPointRange} {book book' : RuleBook}

theorem Backed.mono {name : String} {handle : Handle} {rule : Rule}
    (backed : Backed range book name handle rule)
    (registered : handle.event ∈ book'.events.registered)
    (condition : (book'.events.event? handle.event).map (·.condition)
      = (book.events.event? handle.event).map (·.condition))
    (plan : ∀ plan, book.plan? handle.action = some plan → book'.plan? handle.action = some plan) :
    Backed range book' name handle rule := by
  obtain ⟨e, he, same⟩ := backed.watches
  rw [he] at condition
  obtain ⟨e', he', heq⟩ := Option.map_eq_some_iff.1 condition
  exact ⟨backed.named, backed.parsed, registered, ⟨e', he', heq ▸ same⟩, plan _ backed.plan⟩

theorem Linked.empty : Linked range {} :=
  ⟨⟨.nil, by simp, by simp, by simp⟩, by simp⟩

/-- Changes that leave the rules alone, and of events and actions their conditions, lists and
    plans. -/
theorem Linked.congr (linked : Linked range book) (rules : book'.rules = book.rules)
    (registered : book'.events.registered = book.events.registered)
    (frame : ∀ id, (book'.events.event? id).map (fun e => (e.condition, e.actions))
      = (book.events.event? id).map fun e => (e.condition, e.actions))
    (plan : ∀ id, book'.plan? id = book.plan? id) : Linked range book' := by
  have old {id : Nat} {e' : Event Nat} (he' : book'.events.event? id = some e') :
      ∃ e, book.events.event? id = some e ∧ e'.condition = e.condition ∧ e'.actions = e.actions := by
    have same := frame id
    rw [he'] at same
    obtain ⟨e, he, heq⟩ := Option.map_eq_some_iff.1 same.symm
    exact ⟨e, he, (congrArg Prod.fst heq).symm, (congrArg Prod.snd heq).symm⟩
  refine ⟨⟨rules ▸ linked.names, fun entry h => ?_, fun {id id' e e'} hid hid' he he' same => ?_,
    fun {id e} hid he => ?_⟩, fun id hid => ?_⟩
  · rw [rules] at h
    obtain ⟨rule, backed⟩ := linked.backed entry h
    refine ⟨rule, backed.mono (registered ▸ backed.registered) ?_ fun p hp => (plan _).trans hp⟩
    have same := congrArg (Option.map Prod.fst) (frame entry.2.event)
    simpa [Option.map_map, Function.comp_def] using same
  · rw [registered] at hid hid'
    obtain ⟨e₁, he₁, condition, -⟩ := old he
    obtain ⟨e₂, he₂, condition', -⟩ := old he'
    exact linked.distinct hid hid' he₁ he₂ (condition ▸ condition' ▸ same)
  · rw [registered] at hid
    obtain ⟨e₁, he₁, -, actions⟩ := old he
    rw [actions, rules]
    exact linked.actions hid he₁
  · rw [registered] at hid
    rw [rules]
    exact linked.waited id hid

-- ============================================================================
-- Removal
-- ============================================================================

theorem rules_remove (book : RuleBook) (name : String) :
    (book.remove name).1.rules = book.rules.erase name := by
  unfold RuleBook.remove
  cases found : book.rule? name with
  | none => exact (Table.erase_of_not_has (by simpa [rule?, Table.has] using found)).symm
  | some handle => rfl

theorem Linked.remove (linked : Linked range book) (sound : book.Sound) (name : String) :
    Linked range (book.remove name).1 := by
  cases found : book.rule? name with
  | none =>
    unfold RuleBook.remove
    rw [found]
    exact linked
  | some handle =>
    have entered : (name, handle) ∈ book.rules := Table.mem_of_get? found
    obtain ⟨rule, backed⟩ := linked.backed _ entered
    obtain ⟨e, he, -⟩ := backed.watches
    have actions : e.actions = actionsOn book.rules handle.event := linked.actions backed.registered he
    have left : actionsOn (book.rules.erase name) handle.event = e.actions.erase handle.action := by
      rw [actions]
      exact actionsOn_erase_self linked.names entered (actions ▸ sound.nodup he)
    have others {id : Nat} (other : handle.event ≠ id) :
        actionsOn (book.rules.erase name) id = actionsOn book.rules id :=
      actionsOn_erase_ne linked.names entered other
    have rules' := rules_remove book name
    have event' (id : Nat) : (book.remove name).1.events.event? id
        = if handle.event = id then (book.events.event? id).map fun e => (e.detach handle.action).1
          else book.events.event? id := by
      unfold RuleBook.remove
      rw [found]
      exact (EventRegistry.event?_prune _ _ _).trans (EventRegistry.event?_detach _ _ _ _)
    -- an event stays as long as a rule is left that watches its condition
    have mem' {id : Nat} : id ∈ (book.remove name).1.events.registered
        ↔ id ∈ book.events.registered ∧ actionsOn (book.rules.erase name) id ≠ [] := by
      have detached : (book.events.detach handle.event handle.action).1.event? handle.event
          = some (e.detach handle.action).1 := by
        rw [EventRegistry.event?_detach, if_pos rfl, he]
        rfl
      have nodup := (sound.indexed.detach handle.event handle.action).nodup
      unfold RuleBook.remove
      rw [found]
      refine (EventRegistry.mem_registered_prune nodup detached).trans ?_
      rw [EventRegistry.registered_detach]
      refine and_congr_right fun registered => ?_
      by_cases other : handle.event = id
      · subst other
        simp [Event.detach, left]
      · simpa [Ne.symm other, others other] using linked.waited id registered
    have old {id : Nat} {e' : Event Nat} (he' : (book.remove name).1.events.event? id = some e') :
        ∃ e, book.events.event? id = some e ∧ e'.condition = e.condition := by
      rw [event'] at he'
      split at he'
      · obtain ⟨e, he, rfl⟩ := Option.map_eq_some_iff.1 he'
        exact ⟨e, he, rfl⟩
      · exact ⟨e', he', rfl⟩
    refine ⟨⟨?names, ?backed, ?distinct, ?actions⟩, ?waited⟩
    case names =>
      rw [rules']
      exact Table.nodup_names_erase linked.names name
    case backed =>
      intro entry h
      rw [rules'] at h
      obtain ⟨rule, backed⟩ := linked.backed entry (List.mem_of_mem_filter h)
      refine ⟨rule, backed.mono ?_ ?_ fun plan hp => (extends_remove book name).plan?_eq hp⟩
      · exact mem'.2 ⟨backed.registered, List.ne_nil_of_mem (mem_actionsOn h)⟩
      · rw [event']
        split
        · rw [Option.map_map]
          rfl
        · rfl
    case distinct =>
      intro id id' e e' hid hid' he he' same
      obtain ⟨e₁, he₁, condition⟩ := old he
      obtain ⟨e₂, he₂, condition'⟩ := old he'
      exact linked.distinct (mem'.1 hid).1 (mem'.1 hid').1 he₁ he₂ (condition ▸ condition' ▸ same)
    case actions =>
      intro id e' hid he'
      rw [rules']
      rw [event'] at he'
      split at he'
      · rename_i heq
        subst heq
        rw [he] at he'
        obtain rfl := Option.some.inj he'
        exact left.symm
      · rename_i other
        rw [others other]
        exact linked.actions (mem'.1 hid).1 he'
    case waited =>
      intro id hid
      rw [rules']
      exact (mem'.1 hid).2

-- ============================================================================
-- Registration
-- ============================================================================

/-- A new event is the only one of its condition, and no rule watches it yet. -/
theorem Wired.create (wired : Wired range book) (indexed : book.events.Indexed) {c : Condition}
    (unknown : book.events.find? c = none) :
    Wired range { book with events := book.events.created c } := by
  have absent {id : Nat} {e : Event Nat} (hid : id ∈ book.events.registered)
      (he : book.events.event? id = some e) : e.condition.same c ≠ true := fun same => by
    have contained := EventRegistry.contains_iff.2 ⟨id, hid, e, he, same⟩
    simp [EventRegistry.contains, unknown] at contained
  have event' {id : Nat} (hid : id ∈ book.events.registered) :
      (book.events.created c).event? id = book.events.event? id := by
    rw [EventRegistry.event?_created, if_neg (Nat.ne_of_lt (indexed.bounded id hid))]
  have mem' {id : Nat} (hid : id ∈ (book.events.created c).registered) :
      id ∈ book.events.registered ∨ id = book.events.made.length := by
    simpa [EventRegistry.created] using hid
  have new' {e : Event Nat}
      (he : (book.events.created c).event? book.events.made.length = some e) :
      e = { condition := c } := by
    rw [EventRegistry.event?_created, if_pos rfl] at he
    exact (Option.some.inj he).symm
  refine ⟨wired.names, ?backed, ?distinct, ?actions⟩
  case backed =>
    intro entry h
    obtain ⟨rule, backed⟩ := wired.backed entry h
    refine ⟨rule, backed.mono (List.mem_append_left _ backed.registered) ?_ fun _ hp => hp⟩
    exact congrArg _ (event' backed.registered)
  case distinct =>
    intro id id' e e' hid hid' he he' same
    rcases mem' hid with hid | rfl <;> rcases mem' hid' with hid' | rfl
    · rw [event' hid] at he
      rw [event' hid'] at he'
      exact wired.distinct hid hid' he he' same
    · rw [event' hid] at he
      obtain rfl := new' he'
      exact absurd same (absent hid he)
    · obtain rfl := new' he
      rw [event' hid'] at he'
      exact absurd (Condition.same_symm same) (absent hid' he')
    · rfl
  case actions =>
    intro id e hid he
    rcases mem' hid with hid | rfl
    · rw [event' hid] at he
      exact wired.actions hid he
    · obtain rfl := new' he
      refine (List.map_eq_nil_iff.2 (List.filter_eq_nil_iff.2 fun entry h => ?_)).symm
      obtain ⟨rule, backed⟩ := wired.backed entry h
      have known := indexed.bounded _ backed.registered
      simpa using Nat.ne_of_lt known

/-- A new rule waits at the event of its condition. -/
theorem Wired.attach (wired : Wired range book) (sound : book.Sound) {name text : String}
    {rule : Rule} {event : Nat} {e : Event Nat} (fresh : book.rules.has name = false)
    (parsed : Rule.parse range text = .ok rule) (registered : event ∈ book.events.registered)
    (he : book.events.event? event = some e) (same : e.condition.same rule.condition = true)
    (waited : ∀ id ∈ book.events.registered, id ≠ event → actionsOn book.rules id ≠ []) :
    Linked range { book with
      actions := book.actions ++ [⟨name, rule.action, .ofSpec rule.action, none, false⟩]
      events := book.events.attach event book.actions.length
      rules := book.rules.set name ⟨name, text, event, book.actions.length⟩ } := by
  have unused {id : Nat} {e : Event Nat} (he : book.events.event? id = some e) :
      book.actions.length ∉ e.actions := fun ha => Nat.lt_irrefl _ (sound.bounded he _ ha)
  have event' (id : Nat) : (book.events.attach event book.actions.length).event? id
      = if event = id then (book.events.event? id).map (·.attach book.actions.length)
        else book.events.event? id := EventRegistry.event?_modify _ _ _ _
  have old {id : Nat} {e' : Event Nat}
      (he' : (book.events.attach event book.actions.length).event? id = some e') :
      ∃ e, book.events.event? id = some e ∧ e'.condition = e.condition ∧
        e'.actions = e.actions ++ if event = id then [book.actions.length] else [] := by
    rw [event'] at he'
    split at he'
    · obtain ⟨e, he, rfl⟩ := Option.map_eq_some_iff.1 he'
      refine ⟨e, he, ?_⟩
      rw [Event.attach, if_neg (unused he)]
      exact ⟨rfl, by simp [*]⟩
    · exact ⟨e', he', rfl, by simp [*]⟩
  have plans {plan : Action} {id : Nat} (hp : book.plan? id = some plan) :
      plan? { book with actions := book.actions ++
        [⟨name, rule.action, .ofSpec rule.action, none, false⟩] } id = some plan :=
    Extends.plan?_eq ⟨_, rfl, by simp⟩ hp
  rw [Table.set_of_not_has fresh]
  have actionsOn' (id : Nat) :
      actionsOn (book.rules ++ [(name, ⟨name, text, event, book.actions.length⟩)]) id
        = actionsOn book.rules id ++ if event = id then [book.actions.length] else [] := by
    rw [actionsOn_append]
    congr 1
    split <;> simp [actionsOn, *]
  refine ⟨⟨?names, ?backed, ?distinct, ?actions⟩, ?waited⟩
  case names =>
    rw [Table.names, List.map_append, List.nodup_append]
    refine ⟨wired.names, by simp, fun other ho key hk => ?_⟩
    obtain rfl : key = name := by simpa using hk
    rintro rfl
    exact Table.not_mem_names fresh ho
  case backed =>
    intro entry h
    rcases List.mem_append.1 h with h | h
    · obtain ⟨rule, backed⟩ := wired.backed entry h
      refine ⟨rule, backed.mono backed.registered ?_ fun _ hp => plans hp⟩
      dsimp only
      rw [event']
      split
      · rw [Option.map_map]
        refine congrArg (Option.map · _) (funext fun e => ?_)
        simp only [Function.comp_apply, Event.attach]
        split <;> rfl
      · rfl
    · obtain rfl := List.mem_singleton.1 h
      refine ⟨rule, rfl, parsed, registered, ⟨e.attach book.actions.length, ?_, ?_⟩, ?_⟩
      · dsimp only
        rw [event', if_pos rfl, he]
        rfl
      · unfold Event.attach
        split <;> exact same
      · simp [plan?, action?, Action.plan]
  case distinct =>
    intro id id' e e' hid hid' he he' same
    obtain ⟨e₁, he₁, condition, -⟩ := old he
    obtain ⟨e₂, he₂, condition', -⟩ := old he'
    exact wired.distinct hid hid' he₁ he₂ (condition ▸ condition' ▸ same)
  case actions =>
    intro id e' hid he'
    obtain ⟨e, he, -, actions⟩ := old he'
    dsimp only
    rw [actions, wired.actions hid he, actionsOn']
  case waited =>
    intro id hid
    dsimp only
    rw [actionsOn']
    by_cases h : event = id
    · simp [h]
    · simpa [h] using waited id hid (Ne.symm h)

/-- The event of a condition is the registered one, or a new one if there is none. -/
theorem getOrCreate_cases {c : Condition} (ruled : c.Ruled) (reg : EventRegistry Nat) :
    (∃ id e, id ∈ reg.registered ∧ reg.event? id = some e ∧ e.condition.same c = true ∧
      reg.getOrCreate c = .ok (reg, id, false)) ∨
    (reg.find? c = none ∧ reg.getOrCreate c = .ok (reg.created c, reg.made.length, true)) := by
  unfold EventRegistry.getOrCreate
  cases found : reg.find? c with
  | some id =>
    obtain ⟨registered, e, he, same⟩ := EventRegistry.find?_eq_some found
    exact .inl ⟨id, e, registered, he, same, rfl⟩
  | none =>
    rw [ruled.ofCondition_ok]
    exact .inr ⟨rfl, rfl⟩

theorem enter_eq {rule : Rule} {events : EventRegistry Nat} {event : Nat} {new : Bool}
    (h : book.events.getOrCreate rule.condition = .ok (events, event, new)) (name text : String) :
    book.enter name text rule
      = ({ book with
          actions := book.actions ++ [⟨name, rule.action, .ofSpec rule.action, none, false⟩]
          events := events.attach event book.actions.length
          rules := book.rules.set name ⟨name, text, event, book.actions.length⟩ },
        ⟨name, text, event, book.actions.length⟩) := by
  unfold enter
  rw [h]

theorem Linked.enter (linked : Linked range book) (sound : book.Sound) {name text : String}
    {rule : Rule} (fresh : book.rules.has name = false)
    (parsed : Rule.parse range text = .ok rule) :
    Linked range (book.enter name text rule).1 := by
  have read := Rule.read_of_parse parsed
  rcases getOrCreate_cases read.ruled book.events with
    ⟨id, e, registered, he, same, found⟩ | ⟨unknown, made⟩
  · rw [enter_eq found]
    exact linked.attach sound fresh parsed registered he same fun id hid _ => linked.waited id hid
  · rw [enter_eq made]
    have wired := linked.toWired.create sound.indexed unknown
    refine wired.attach (sound.create read.ruled) fresh parsed
      (List.mem_append_right _ (List.mem_singleton_self _))
      (by rw [EventRegistry.event?_created, if_pos rfl]) read.same_self fun id hid other => ?_
    rcases List.mem_append.1 hid with hid | hid
    · exact linked.waited id hid
    · exact absurd (List.mem_singleton.1 hid) other

theorem Linked.chooseId (linked : Linked range book) (id : Option String) :
    Linked range (book.chooseId id).1 := by
  unfold RuleBook.chooseId
  split
  · split
    · exact linked.congr rfl rfl (fun _ => rfl) fun _ => rfl
    · exact linked
  · exact linked.congr rfl rfl (fun _ => rfl) fun _ => rfl

theorem Linked.register (linked : Linked range book) (sound : book.Sound) {text : String}
    {id : Option String} {handle : Handle}
    (h : book.register range text id = .ok (book', handle)) : Linked range book' := by
  obtain ⟨rule, parsed, hrule⟩ := exists_of_register h
  have hb : book' = _ := (congrArg Prod.fst hrule).symm
  rw [hb]
  refine ((linked.chooseId id).remove (sound.chooseId id) _).enter
    ((sound.chooseId id).remove _) ?_ parsed
  rw [rules_remove]
  exact Table.has_erase _ _

theorem Linked.load (linked : Linked range book) (sound : book.Sound)
    (stored : List (String × String)) : Linked range (book.load range stored).1 := by
  have both : Linked range (book.load range stored).1 ∧ (book.load range stored).1.Sound :=
    load_induction (P := fun book => Linked range book ∧ book.Sound)
      (fun _ _ _ _ _ h hr => ⟨h.1.register h.2 hr, h.2.register hr⟩)
      book stored ⟨linked, sound⟩
  exact both.1

theorem Linked.request (linked : Linked range book) (sound : book.Sound)
    (request : Activity.Request) : Linked range (request.book range book) := by
  cases request with
  | register text id =>
    simp only [Activity.Request.book]
    split
    · exact linked.register sound ‹_›
    · exact linked
  | remove name => exact linked.remove sound name
  | removeHandle handle => exact linked.remove sound handle.ruleId
  | load stored => exact linked.load sound stored
  | process | execute => exact linked

/-- Readings change of the events only what they have seen. -/
theorem Linked.observed (linked : Linked range book) (readings : List SensorReading) :
    Linked range { book with events := book.events.observed readings } := by
  have alike := book.events.alike_observed readings
  exact linked.congr rfl alike.registered alike.frame fun _ => rfl

end RuleBook

-- ============================================================================
-- Steps
-- ============================================================================

variable {σ : Type} {backend : Backend σ} {engine : Engine σ}

/-- A snapshot, refused or not, is applied as far as it can be. -/
theorem Engine.exists_after_of_observe {engine' : Engine σ} {snapshot : Json}
    {result : Except DispatchError (List Nat)} (sound : engine.book.Sound)
    (h : engine.observe snapshot = (engine', result)) :
    ∃ readings, engine' = engine.after readings := by
  cases result with
  | ok events =>
    obtain ⟨readings, -, -, rfl, -⟩ := observe_eq_ok sound h
    exact ⟨readings, rfl⟩
  | error e =>
    obtain rfl | ⟨before, r, after, -, -, -, rfl⟩ := observe_eq_error sound h
    · exact ⟨[], rfl⟩
    · exact ⟨before, rfl⟩

namespace Run

variable {self : Nat} {locks : LockTable} {run : Run} {step : RunStep σ}

theorem Proceeds.rules_eq (h : run.Proceeds backend self engine locks step) :
    step.engine.book.rules = engine.book.rules := by
  cases h <;> simp [close, leave, Run.accept, sendDesired]

theorem Proceeds.range_eq (h : run.Proceeds backend self engine locks step) :
    step.engine.range = engine.range := by
  cases h with
  | abandon | unrestored | save =>
    simp only [close, leave, settle]
    split <;> rfl
  | _ => rfl

end Run

namespace Activity

variable {self : Nat} {activity next : Activity σ} {initial : Engine σ} {log : List Contact}

theorem Advances.range_eq (sound : activity.engine.book.Sound)
    (h : activity.Advances backend self next) : next.engine.range = activity.engine.range := by
  cases h with
  | run task idle proceeds => exact proceeds.range_eq
  | refuse task held observes | spread task held observes =>
    obtain ⟨readings, rfl⟩ := Engine.exists_after_of_observe sound observes
    rfl
  | pause | queue | gather => rfl

/-- No step undoes the correspondence of rules, events and actions. -/
theorem Advances.linked {range : SetPointRange} (sound : activity.engine.book.Sound)
    (h : activity.Advances backend self next)
    (linked : RuleBook.Linked range activity.engine.book) :
    RuleBook.Linked range next.engine.book := by
  cases h with
  | run task idle proceeds =>
    exact linked.congr proceeds.rules_eq (by rw [proceeds.events_eq])
      (fun _ => by rw [proceeds.events_eq]) proceeds.plan?_eq
  | refuse task held observes | spread task held observes =>
    obtain ⟨readings, rfl⟩ := Engine.exists_after_of_observe sound observes
    exact linked.observed readings
  | pause | queue | gather => exact linked

theorem Reached.range_eq (reached : Reached backend initial log activity) :
    activity.engine.range = initial.range := by
  induction reached with
  | start => rfl
  | submit request _ ih => exact ih
  | advance reached step ih => exact (step.advances.range_eq reached.sound).trans ih

/-- Rules, events and actions belong together in every reachable activity. -/
theorem Reached.linked (reached : Reached backend initial log activity) :
    RuleBook.Linked initial.range activity.engine.book := by
  induction reached with
  | start empty => exact empty ▸ RuleBook.Linked.empty
  | submit request reached ih =>
    rw [← reached.range_eq] at ih ⊢
    exact ih.request reached.sound request
  | advance reached step ih => exact step.advances.linked reached.sound ih

end Activity

end HomeAutomation
