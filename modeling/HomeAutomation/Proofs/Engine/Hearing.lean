/-
  HomeAutomation.Proofs.Engine.Hearing

  What events have heard.  `Activity.Heard` accompanies a run by the readings
  that its steps apply, each with the event that it is applied to.  Whatever
  rules come and go, an event holds the last value that it could see in the
  readings it has heard, and its state tells whether its condition holds for
  that value.
-/

import Mathlib.Data.List.TakeWhile
import HomeAutomation.Proofs.Engine.Observation
import HomeAutomation.Proofs.Engine.Correspondence

namespace HomeAutomation

-- ============================================================================
-- The memory of an event
-- ============================================================================

namespace Condition

/-- The last value that a condition sees in readings. -/
def lastSeen (c : Condition) (readings : List SensorReading) : Option EventValue :=
  (readings.filterMap fun r => (c.see r.value).toOption).getLast?

/-- Whether a condition holds for a value that may be missing. -/
def holdsFor (c : Condition) (value : Option EventValue) : Bool :=
  value.any fun seen => c.test seen = .ok true

theorem lastSeen_concat_of_ok {c : Condition} {r : SensorReading} {seen : EventValue}
    (h : c.see r.value = .ok seen) (readings : List SensorReading) :
    c.lastSeen (readings ++ [r]) = some seen := by
  simp [lastSeen, List.filterMap_append, h, Except.toOption]

theorem lastSeen_concat_of_error {c : Condition} {r : SensorReading} {e : Json.ConversionError}
    (h : c.see r.value = .error e) (readings : List SensorReading) :
    c.lastSeen (readings ++ [r]) = c.lastSeen readings := by
  simp [lastSeen, List.filterMap_append, h, Except.toOption]

end Condition

namespace Event

variable {α : Type} {e : Event α} {r : SensorReading} {readings : List SensorReading}

/-- An event holds what its condition has seen last, and its state goes by it. -/
structure Remembers (e : Event α) (readings : List SensorReading) : Prop where
  value : e.value = e.condition.lastSeen readings
  state : e.state = e.condition.holdsFor e.value

/-- Events with one condition, one value and one state remember the same. -/
theorem Remembers.congr {e' : Event α} (h : e.Remembers readings)
    (condition : e'.condition = e.condition) (value : e'.value = e.value)
    (state : e'.state = e.state) : e'.Remembers readings :=
  ⟨by rw [condition, value, h.value], by rw [condition, value, state, h.state]⟩

theorem Remembers.of_unseen (unseen : e.value = none) (idle : e.state = false) :
    e.Remembers [] := by
  refine ⟨unseen, ?_⟩
  rw [idle, unseen]
  rfl

/-- An event that hears one reading more remembers it as well. -/
theorem Remembers.update (h : e.Remembers readings) (ruled : e.condition.Ruled)
    (key : r.key = e.condition.key) : (e.update r).1.Remembers (readings ++ [r]) := by
  cases hs : e.condition.see r.value with
  | ok seen =>
    obtain ⟨holds, tested, updated⟩ := update_of_seen ruled key hs
    rw [updated]
    refine ⟨(Condition.lastSeen_concat_of_ok hs readings).symm, ?_⟩
    simp [saw, Condition.holdsFor, tested]
  | error error =>
    have same : (e.update r).1 = e := by
      by_cases hr : r.Overflows
      · rw [update_of_overflows key hr]
      · rw [update_of_unusable key hs hr]
    rw [same]
    exact ⟨h.value.trans (Condition.lastSeen_concat_of_error hs readings).symm, h.state⟩

end Event

-- ============================================================================
-- The memory of a registry
-- ============================================================================

/-- Readings with the events that they are applied to, oldest first. -/
abbrev Deliveries := List (Nat × SensorReading)

namespace Deliveries

/-- The readings that an event has heard. -/
def readingsOf (heard : Deliveries) (id : Nat) : List SensorReading :=
  (heard.filter (·.1 = id)).map (·.2)

theorem readingsOf_append (heard more : Deliveries) (id : Nat) :
    Deliveries.readingsOf (heard ++ more) id = heard.readingsOf id ++ more.readingsOf id := by
  simp [readingsOf]

/-- Of a reading that is delivered to several events, each hears it once. -/
theorem readingsOf_map {ids : List Nat} (nodup : ids.Nodup) (r : SensorReading) (id : Nat) :
    Deliveries.readingsOf (ids.map (·, r)) id = if id ∈ ids then [r] else [] := by
  induction ids with
  | nil => rfl
  | cons first rest ih =>
    rw [List.nodup_cons] at nodup
    have step : Deliveries.readingsOf ((first :: rest).map (·, r)) id
        = Deliveries.readingsOf [(first, r)] id ++ Deliveries.readingsOf (rest.map (·, r)) id :=
      readingsOf_append [(first, r)] _ id
    rw [step, ih nodup.2]
    by_cases h : first = id
    · subst h
      simp [readingsOf, nodup.1]
    · simp [readingsOf, h, Ne.symm h]

theorem readingsOf_eq_nil {heard : Deliveries} {bound id : Nat} (made : ∀ d ∈ heard, d.1 < bound)
    (beyond : bound ≤ id) : heard.readingsOf id = [] := by
  rw [readingsOf, List.map_eq_nil_iff, List.filter_eq_nil_iff]
  intro d hd
  have := made d hd
  rw [decide_eq_true_eq]
  omega

end Deliveries

namespace EventRegistry

variable {α : Type} {reg reg' : EventRegistry α} {heard : Deliveries}

/-- What is delivered of readings that are applied. -/
def deliveries (reg : EventRegistry α) (readings : List SensorReading) : Deliveries :=
  readings.flatMap fun r => (reg.matching r.metric r.location).map (·, r)

/-- Every event remembers what it has heard, and only events that were made have heard anything. -/
structure Remembering (reg : EventRegistry α) (heard : Deliveries) : Prop where
  made : ∀ delivery ∈ heard, delivery.1 < reg.made.length
  remembers : ∀ {id : Nat} {e : Event α}, reg.event? id = some e → e.Remembers (heard.readingsOf id)

theorem Remembering.empty : ({} : EventRegistry α).Remembering [] :=
  ⟨by simp, fun {id e} he => by simp [event?] at he⟩

/-- A registry that remembers goes on to when a reading is applied to the events that match it. -/
theorem Remembering.apply (h : reg.Remembering heard) (indexed : reg.Indexed)
    (ruled : ∀ {id : Nat} {e : Event α}, reg.event? id = some e → e.condition.Ruled)
    (r : SensorReading) :
    (reg.apply r (reg.matching r.metric r.location)).Remembering
      (heard ++ (reg.matching r.metric r.location).map (·, r)) := by
  have alike := alike_apply reg r (reg.matching r.metric r.location)
  have nodup := indexed.nodup_matching r.metric r.location
  constructor
  case made =>
    intro delivery hd
    rw [alike.length]
    rcases List.mem_append.1 hd with hd | hd
    · exact h.made delivery hd
    · obtain ⟨id, matched, rfl⟩ := List.mem_map.1 hd
      exact indexed.bounded id (indexed.exists_of_matching matched).1
  case remembers =>
    intro id e' he'
    rw [Deliveries.readingsOf_append, Deliveries.readingsOf_map nodup]
    by_cases matched : id ∈ reg.matching r.metric r.location
    · obtain ⟨-, e, he, key⟩ := indexed.exists_of_matching matched
      rw [event?_apply_of_mem reg r nodup matched, he] at he'
      obtain rfl := Option.some.inj he'
      rw [if_pos matched]
      exact (h.remembers he).update (ruled he) key
    · rw [event?_apply_of_notMem reg r matched] at he'
      rw [if_neg matched, List.append_nil]
      exact h.remembers he'

theorem Remembering.observed (h : reg.Remembering heard) (indexed : reg.Indexed)
    (ruled : ∀ {id : Nat} {e : Event α}, reg.event? id = some e → e.condition.Ruled)
    (readings : List SensorReading) :
    (reg.observed readings).Remembering (heard ++ reg.deliveries readings) := by
  induction readings generalizing reg heard with
  | nil => simpa [EventRegistry.observed, deliveries] using h
  | cons r rest ih =>
    have alike := alike_apply reg r (reg.matching r.metric r.location)
    have later : (reg.apply r (reg.matching r.metric r.location)).deliveries rest
        = reg.deliveries rest :=
      List.flatMap_congr fun r' _ => by rw [alike.matching_eq]
    have next := ih (h.apply indexed ruled r) (alike.indexed indexed) fun {id e'} he' => by
      obtain ⟨e, he, condition, -⟩ := alike.exists_event he'
      exact condition ▸ ruled he
    rw [later, List.append_assoc] at next
    exact next

-- ============================================================================
-- Changes to the events
-- ============================================================================

/-- A change that lets events keep what they hold: those that are there keep their value and their
    state, those that are made have not seen anything. -/
structure Keeps (reg reg' : EventRegistry α) : Prop where
  length : reg.made.length ≤ reg'.made.length
  event : ∀ {id : Nat} {e' : Event α}, reg'.event? id = some e' →
    (∃ e, reg.event? id = some e ∧ e'.condition = e.condition ∧ e'.value = e.value ∧
      e'.state = e.state) ∨
    reg.made.length ≤ id ∧ e'.value = none ∧ e'.state = false

theorem Keeps.refl (reg : EventRegistry α) : reg.Keeps reg :=
  ⟨Nat.le_refl _, fun {_ e'} he' => .inl ⟨e', he', rfl, rfl, rfl⟩⟩

theorem Keeps.trans {a b c : EventRegistry α} (h : a.Keeps b) (h' : b.Keeps c) : a.Keeps c := by
  refine ⟨Nat.le_trans h.length h'.length, fun {id e''} he'' => ?_⟩
  rcases h'.event he'' with ⟨e', he', condition', value', state'⟩ | ⟨beyond, unseen⟩
  · rcases h.event he' with ⟨e, he, condition, value, state⟩ | ⟨beyond, unseen, idle⟩
    · exact .inl ⟨e, he, condition'.trans condition, value'.trans value, state'.trans state⟩
    · exact .inr ⟨beyond, value'.trans unseen, state'.trans idle⟩
  · exact .inr ⟨Nat.le_trans h.length beyond, unseen⟩

/-- What is said of an event that was made has to be said of its event after the change. -/
theorem Keeps.of_event? (length : reg'.made.length = reg.made.length)
    (event : ∀ {id : Nat} {e' : Event α}, reg'.event? id = some e' →
      ∃ e, reg.event? id = some e ∧ e'.condition = e.condition ∧ e'.value = e.value ∧
        e'.state = e.state) : reg.Keeps reg' :=
  ⟨Nat.le_of_eq length.symm, fun he' => .inl (event he')⟩

theorem Remembering.keeps (h : reg.Remembering heard) (keeps : reg.Keeps reg') :
    reg'.Remembering heard := by
  refine ⟨fun delivery hd => Nat.lt_of_lt_of_le (h.made delivery hd) keeps.length,
    fun {id e'} he' => ?_⟩
  rcases keeps.event he' with ⟨e, he, condition, value, state⟩ | ⟨beyond, unseen, idle⟩
  · exact (h.remembers he).congr condition value state
  · rw [Deliveries.readingsOf_eq_nil h.made beyond]
    exact .of_unseen unseen idle

theorem keeps_attach [DecidableEq α] (reg : EventRegistry α) (id : Nat) (action : α) :
    reg.Keeps (reg.attach id action) := by
  refine .of_event? (List.length_modify ..) fun {other e'} he' => ?_
  rw [attach, event?_modify] at he'
  split at he'
  · obtain ⟨e, he, rfl⟩ := Option.map_eq_some_iff.1 he'
    refine ⟨e, he, ?_⟩
    unfold Event.attach
    split <;> exact ⟨rfl, rfl, rfl⟩
  · exact ⟨e', he', rfl, rfl, rfl⟩

theorem keeps_detach [DecidableEq α] (reg : EventRegistry α) (id : Nat) (action : α) :
    reg.Keeps (reg.detach id action).1 := by
  refine .of_event? ?_ fun {other e'} he' => ?_
  · unfold detach
    split
    · exact List.length_modify ..
    · rfl
  · rw [event?_detach] at he'
    split at he'
    · obtain ⟨e, he, rfl⟩ := Option.map_eq_some_iff.1 he'
      exact ⟨e, he, rfl, rfl, rfl⟩
    · exact ⟨e', he', rfl, rfl, rfl⟩

theorem keeps_prune (reg : EventRegistry α) (id : Nat) : reg.Keeps (reg.prune id).1 := by
  refine .of_event? ?_ fun {other e'} he' => ⟨e', event?_prune reg id other ▸ he', rfl, rfl, rfl⟩
  unfold prune remove
  split
  · split
    · split
      · split <;> rfl
      · rfl
    · rfl
  · rfl

theorem keeps_created (reg : EventRegistry α) (c : Condition) : reg.Keeps (reg.created c) := by
  refine ⟨by simp [created], fun {id e'} he' => ?_⟩
  rw [event?_created] at he'
  split at he'
  · obtain rfl := Option.some.inj he'
    exact .inr ⟨Nat.le_of_eq (Eq.symm ‹_›), rfl, rfl⟩
  · exact .inl ⟨e', he', rfl, rfl, rfl⟩

end EventRegistry

namespace RuleBook

variable {range : SetPointRange} {book book' : RuleBook}

theorem keeps_remove (book : RuleBook) (name : String) :
    book.events.Keeps (book.remove name).1.events := by
  unfold remove
  split
  · exact .refl _
  · exact (EventRegistry.keeps_detach ..).trans (EventRegistry.keeps_prune ..)

theorem keeps_enter (book : RuleBook) (name text : String) {rule : Rule}
    (ruled : rule.condition.Ruled) :
    book.events.Keeps (book.enter name text rule).1.events := by
  rcases getOrCreate_cases ruled book.events with ⟨_, _, -, -, -, found⟩ | ⟨-, made⟩
  · rw [enter_eq found]
    exact EventRegistry.keeps_attach ..
  · rw [enter_eq made]
    exact (EventRegistry.keeps_created ..).trans (EventRegistry.keeps_attach ..)

theorem events_chooseId (book : RuleBook) (id : Option String) :
    (book.chooseId id).1.events = book.events := by
  unfold chooseId
  split
  · split <;> rfl
  · rfl

theorem keeps_register {text : String} {id : Option String} {handle : Handle}
    (h : book.register range text id = .ok (book', handle)) : book.events.Keeps book'.events := by
  obtain ⟨rule, parsed, entered⟩ := exists_of_register h
  have removed := keeps_remove (book.chooseId id).1 (book.chooseId id).2
  rw [events_chooseId] at removed
  have all := removed.trans (keeps_enter _ (book.chooseId id).2 text (Rule.ruled_of_parse parsed))
  rw [entered] at all
  exact all

theorem keeps_load (book : RuleBook) (range : SetPointRange) (stored : List (String × String)) :
    book.events.Keeps (book.load range stored).1.events :=
  load_induction (P := fun b => book.events.Keeps b.events)
    (fun _ _ _ _ _ kept registered => kept.trans (keeps_register registered)) book stored (.refl _)

/-- Requests let events keep what they hold. -/
theorem keeps_request (book : RuleBook) (range : SetPointRange) (request : Activity.Request) :
    book.events.Keeps (request.book range book).events := by
  cases request with
  | register text id =>
    simp only [Activity.Request.book]
    split
    · exact keeps_register ‹_›
    · exact .refl _
  | remove name => exact keeps_remove book name
  | removeHandle handle => exact keeps_remove book handle.ruleId
  | load stored => exact keeps_load book range stored
  | process | execute => exact .refl _

end RuleBook

-- ============================================================================
-- Runs
-- ============================================================================

variable {σ : Type}

instance (r : SensorReading) : Decidable r.Overflows := inferInstanceAs (Decidable (_ ∧ _))

instance {α : Type} (reg : EventRegistry α) (r : SensorReading) : Decidable (reg.Blocks r) :=
  inferInstanceAs (Decidable (_ ∧ _))

namespace Engine

/-- The readings of a snapshot that are applied: all before the first that cannot be. -/
def applied (engine : Engine σ) (snapshot : Json) : List SensorReading :=
  match Snapshot.readings snapshot with
  | .ok readings => readings.takeWhile fun r => ¬ engine.book.events.Blocks r
  | .error _ => []

/-- A snapshot, refused or not, is applied as far as it can be. -/
theorem observe_fst {engine : Engine σ} (sound : engine.book.Sound) (snapshot : Json) :
    (engine.observe snapshot).1 = engine.after (engine.applied snapshot) := by
  cases hr : Snapshot.readings snapshot with
  | error fault =>
    simp only [applied, observe, hr]
    rfl
  | ok readings =>
    rcases RuleBook.exists_first_blocked engine.book.events readings with
      usable | ⟨before, r, rest, rfl, usable, blocked⟩
    · have all : engine.applied snapshot = readings := by
        simp only [applied, hr]
        exact List.takeWhile_eq_self_iff.2 fun r h => decide_eq_true (usable r h)
      simp only [all, observe, hr,
        RuleBook.observe_of_usable sound (Snapshot.nodup_keys_readings hr) usable]
      rfl
    · have some : engine.applied snapshot = before := by
        simp only [applied, hr]
        rw [List.takeWhile_append_of_pos fun r h => decide_eq_true (usable r h),
          List.takeWhile_cons_of_neg (by simpa using blocked), List.append_nil]
      rw [some, observe_of_blocked sound hr usable blocked]

end Engine

namespace Activity

variable {backend : Backend σ} {initial : Engine σ} {activity next : Activity σ}
  {heard : Deliveries}

/-- What the next step of a task lets events hear. -/
def deliveries (activity : Activity σ) (self : Nat) : Deliveries :=
  match activity.tasks[self]? with
  | some (.dispatch ⟨snapshot, .queued⟩) =>
    activity.engine.book.events.deliveries (activity.engine.applied snapshot)
  | _ => []

/-- The activities that requests and steps lead to from an engine without rules, with what events
    have heard on the way. -/
inductive Heard (backend : Backend σ) (initial : Engine σ) : Deliveries → Activity σ → Prop
  | start (empty : initial.book = {}) : Heard backend initial [] { engine := initial }
  | submit {heard : Deliveries} {activity : Activity σ} (request : Request)
      (past : Heard backend initial heard activity) :
      Heard backend initial heard (activity.submit request)
  | advance {heard : Deliveries} {activity next : Activity σ} {self : Nat}
      (past : Heard backend initial heard activity) (step : activity.Step backend self next) :
      Heard backend initial (heard ++ activity.deliveries self) next

/-- Whatever is reached, events have heard something on the way. -/
theorem Reached.exists_heard {log : List Contact}
    (reached : Reached backend initial log activity) :
    ∃ heard, Heard backend initial heard activity := by
  induction reached with
  | start empty => exact ⟨[], .start empty⟩
  | submit request _ ih =>
    obtain ⟨heard, past⟩ := ih
    exact ⟨heard, past.submit request⟩
  | advance _ step ih =>
    obtain ⟨heard, past⟩ := ih
    exact ⟨_, past.advance step⟩

theorem Heard.exists_reached (h : Heard backend initial heard activity) :
    ∃ log, Reached backend initial log activity := by
  induction h with
  | start empty => exact ⟨[], .start empty⟩
  | submit request _ ih =>
    obtain ⟨log, reached⟩ := ih
    exact ⟨log, reached.submit request⟩
  | advance _ step ih =>
    obtain ⟨log, reached⟩ := ih
    exact ⟨_, reached.advance step⟩

/-- A step lets events hear what it applies, and nothing else changes them. -/
theorem Advances.remembering {self : Nat} (h : activity.Advances backend self next)
    (sound : activity.engine.book.Sound)
    (remembering : activity.engine.book.events.Remembering heard) :
    next.engine.book.events.Remembering (heard ++ activity.deliveries self) := by
  have opened {snapshot : Json} {engine : Engine σ} {result : Except DispatchError (List Nat)}
      (task : activity.tasks[self]? = some (.dispatch ⟨snapshot, .queued⟩))
      (observes : activity.engine.observe snapshot = (engine, result)) :
      engine.book.events.Remembering (heard ++ activity.deliveries self) := by
    have same := Engine.observe_fst sound snapshot
    rw [observes] at same
    dsimp only at same
    rw [same, deliveries, task]
    exact remembering.observed sound.indexed sound.ruled _
  cases h with
  | refuse task held observes => exact opened task observes
  | spread task held observes fans => exact opened task observes
  | run task idle proceeds =>
    simp only [deliveries, task, List.append_nil]
    rw [proceeds.events_eq]
    exact remembering
  | pause task | queue task | gather task =>
    simp only [deliveries, task, List.append_nil]
    exact remembering

/-- In every reachable activity events remember what they have heard. -/
theorem Heard.remembering (h : Heard backend initial heard activity) :
    activity.engine.book.events.Remembering heard := by
  induction h with
  | start empty =>
    dsimp only
    rw [empty]
    exact .empty
  | submit request _ ih => exact ih.keeps (RuleBook.keeps_request _ _ request)
  | advance past step ih =>
    obtain ⟨log, reached⟩ := past.exists_reached
    exact step.advances.remembering reached.sound ih

end Activity

end HomeAutomation
