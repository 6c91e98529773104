/-
  HomeAutomation.Proofs.Engine.Handles

  Handles outlive the registrations that gave them out.  `Activity.HandedOut`
  accompanies a run by the handles that it has given out.  They are numbered by
  their actions, and of the handles of one id only the last can be registered, so
  a handle is registered, or nothing is under its id, or a later registration
  is.  Removing by a handle goes by the id alone: in the last case it takes out
  the rule of the later registration.
-/

import HomeAutomation.Proofs.Engine.Registration

namespace HomeAutomation

namespace EventRegistry

variable {α : Type} {reg : EventRegistry α}

/-- An event is dropped if no action waits for it. -/
theorem registered_prune {id : Nat} {e : Event α} (he : reg.event? id = some e) :
    (reg.prune id).1.registered
      = if e.actions = [] then reg.registered.erase id else reg.registered := by
  unfold prune remove
  simp only [he, List.isEmpty_iff]
  split
  · split
    · rfl
    · rename_i unknown
      exact (List.erase_of_not_mem unknown).symm
  · rfl

end EventRegistry

namespace RuleBook

variable {range : SetPointRange} {book book' : RuleBook} {handle : Handle}

-- ============================================================================
-- Withdrawal
-- ============================================================================

/-- The rule of a handle is taken out: its id is free, its action no longer waits for its event, and
    the event is dropped if that was the last one.  All else is as it was. -/
structure Withdrawn (handle : Handle) (book book' : RuleBook) : Prop where
  rules : book'.rules = book.rules.erase handle.ruleId
  actions : book'.actions = book.actions
  event : ∃ e before after, book.events.event? handle.event = some e ∧
    e.actions = before ++ handle.action :: after ∧ handle.action ∉ before ++ after ∧
    book'.events.event? handle.event = some { e with actions := before ++ after } ∧
    book'.events.registered = if before ++ after = []
      then book.events.registered.erase handle.event else book.events.registered
  others : ∀ id ≠ handle.event, book'.events.event? id = book.events.event? id

/-- No event waits with the action of a handle. -/
def Idle (handle : Handle) (book : RuleBook) : Prop :=
  ∀ id ∈ book.events.registered, ∀ e, book.events.event? id = some e → handle.action ∉ e.actions

/-- Removing an id takes out the rule that is registered under it. -/
theorem Linked.withdrawn_remove (linked : Linked range book) (sound : book.Sound) {name : String}
    (found : book.rule? name = some handle) :
    (book.remove name).2 = true ∧ Withdrawn handle book (book.remove name).1 := by
  have entered : (name, handle) ∈ book.rules := Table.mem_of_get? found
  obtain ⟨rule, backed⟩ := linked.backed _ entered
  obtain rfl : handle.ruleId = name := backed.named
  obtain ⟨e, he, -⟩ := backed.watches
  have actions : e.actions = actionsOn book.rules handle.event :=
    linked.actions backed.registered he
  have waits : handle.action ∈ e.actions := by
    rw [actions]
    exact mem_actionsOn entered
  obtain ⟨before, after, split⟩ := List.append_of_mem waits
  have nodup : (before ++ handle.action :: after).Nodup := split ▸ sound.nodup he
  have once : handle.action ∉ before ++ after := (List.nodup_middle.1 nodup).notMem
  have left : e.actions.erase handle.action = before ++ after := by
    rw [split, List.erase_append_right _ fun early => once (List.mem_append_left _ early),
      List.erase_cons_head]
  have detached (id : Nat) := EventRegistry.event?_detach book.events handle.event id handle.action
  have here : (book.events.detach handle.event handle.action).1.event? handle.event
      = some { e with actions := before ++ after } := by
    rw [detached, if_pos rfl, he, ← left]
    rfl
  have removed : book.remove handle.ruleId
      = ({ book with
            rules := book.rules.erase handle.ruleId
            events := ((book.events.detach handle.event handle.action).1.prune handle.event).1 },
          true) := by
    unfold RuleBook.remove
    rw [found]
  rw [removed]
  refine ⟨rfl, rfl, rfl, ⟨e, before, after, he, split, once, ?_, ?_⟩, fun id other => ?_⟩
  · rw [EventRegistry.event?_prune, here]
  · rw [EventRegistry.registered_prune here, EventRegistry.registered_detach]
  · rw [EventRegistry.event?_prune, detached, if_neg (Ne.symm other)]

/-- Without a rule under the id nothing is taken out. -/
theorem remove_of_rule?_eq_none {name : String} (unknown : book.rule? name = none) :
    book.remove name = (book, false) := by
  unfold RuleBook.remove
  rw [unknown]

-- ============================================================================
-- Handles that were given out
-- ============================================================================

/-- Handles in the order in which they were given out.  Their actions are numbered in that order,
    registered rules have handles among them, and under its id each of these is the last. -/
structure Accounted (book : RuleBook) (handles : List Handle) : Prop where
  ordered : handles.Pairwise (·.action < ·.action)
  planned : ∀ handle ∈ handles, ∃ plan, book.plan? handle.action = some plan
  given : ∀ entry ∈ book.rules, entry.2 ∈ handles
  latest : ∀ entry ∈ book.rules, ∀ handle ∈ handles, handle.ruleId = entry.1 →
    handle.action ≤ entry.2.action

theorem lt_of_plan? {id : Nat} {plan : Action} (h : book.plan? id = some plan) :
    id < book.actions.length := by
  obtain ⟨a, ha, -⟩ := Option.map_eq_some_iff.1 h
  exact (List.getElem?_eq_some_iff.1 ha).1

namespace Accounted

variable {handles : List Handle}

theorem empty : ({} : RuleBook).Accounted [] :=
  ⟨.nil, by simp, by simp, by simp⟩

/-- Handles stay accounted for as long as rules are only taken out and no action is lost. -/
theorem mono (h : book.Accounted handles) (rules : ∀ entry ∈ book'.rules, entry ∈ book.rules)
    (plans : ∀ id plan, book.plan? id = some plan → book'.plan? id = some plan) :
    book'.Accounted handles := by
  refine ⟨h.ordered, fun handle given => ?_, fun entry he => h.given entry (rules entry he),
    fun entry he => h.latest entry (rules entry he)⟩
  obtain ⟨plan, planned⟩ := h.planned handle given
  exact ⟨plan, plans _ _ planned⟩

theorem remove (h : book.Accounted handles) (name : String) :
    (book.remove name).1.Accounted handles := by
  refine h.mono (fun entry he => ?_) fun _ _ => (extends_remove book name).plan?_eq
  rw [rules_remove] at he
  exact List.mem_of_mem_filter he

/-- A handle is known by its action. -/
theorem eq_of_action_eq (h : book.Accounted handles) {other : Handle} (given : handle ∈ handles)
    (given' : other ∈ handles) (same : handle.action = other.action) : handle = other := by
  have numbered : (handles.map Handle.action).Nodup :=
    (List.pairwise_map.2 h.ordered).imp Nat.ne_of_lt
  exact List.inj_on_of_nodup_map numbered given given' same

/-- A handle whose id has another's rule was given out before that. -/
theorem sublist_of_rule? (h : book.Accounted handles) {current : Handle} (given : handle ∈ handles)
    (found : book.rule? handle.ruleId = some current) (other : current ≠ handle) :
    [handle, current].Sublist handles := by
  have entered : (handle.ruleId, current) ∈ book.rules := Table.mem_of_get? found
  have atMost := h.latest _ entered handle given rfl
  obtain ⟨before, after, split⟩ := List.append_of_mem given
  have member : current ∈ before ++ handle :: after := split ▸ h.given _ entered
  have ordered := split ▸ h.ordered
  rcases List.mem_append.1 member with early | later
  · have less := (List.pairwise_append.1 ordered).2.2 current early handle List.mem_cons_self
    exact absurd less (Nat.not_lt.2 atMost)
  · rcases List.mem_cons.1 later with same | later
    · exact absurd same other
    · rw [split]
      exact ((List.singleton_sublist.2 later).cons_cons handle).trans
        (List.sublist_append_right before _)

/-- With another's rule under its id, or none, no event waits for a handle. -/
theorem idle (h : book.Accounted handles) (linked : Linked range book) (given : handle ∈ handles)
    (unregistered : book.rule? handle.ruleId ≠ some handle) : Idle handle book := by
  intro id registered e he waits
  rw [linked.actions registered he] at waits
  obtain ⟨entry, member, same⟩ := List.mem_map.1 waits
  obtain ⟨member, -⟩ := List.mem_filter.1 member
  obtain ⟨rule, backed⟩ := linked.backed entry member
  obtain ⟨name, current⟩ := entry
  obtain rfl : current = handle := h.eq_of_action_eq (h.given _ member) given same
  obtain rfl : current.ruleId = name := backed.named
  exact unregistered (Table.get?_of_mem linked.names member)

end Accounted

/-- The handle of a registration has a new action. -/
theorem action_register {text : String} {id : Option String}
    (h : book.register range text id = .ok (book', handle)) :
    handle.action = book.actions.length ∧ ∃ plan, book'.plan? handle.action = some plan := by
  obtain ⟨rule, parsed, entered⟩ := exists_of_register h
  have kept : ((book.chooseId id).1.remove (book.chooseId id).2).1.actions = book.actions := by
    have chosen : (book.chooseId id).1.actions = book.actions := by
      unfold chooseId
      split
      · split <;> rfl
      · rfl
    unfold RuleBook.remove
    split
    · exact chosen
    · exact chosen
  have action : handle.action = book.actions.length ∧ ∃ a, book'.actions = book.actions ++ [a] := by
    rcases getOrCreate_cases (Rule.ruled_of_parse parsed)
      ((book.chooseId id).1.remove (book.chooseId id).2).1.events with
      ⟨_, _, -, -, -, made⟩ | ⟨-, made⟩
    all_goals
      rw [enter_eq made, kept] at entered
      obtain ⟨rfl, rfl⟩ := Prod.mk.inj entered
      exact ⟨rfl, _, rfl⟩
  obtain ⟨new, a, grown⟩ := action
  exact ⟨new, a.plan, by simp [plan?, action?, new, grown]⟩

namespace Accounted

variable {handles : List Handle}

/-- A registration gives out the last handle, and its rule replaces that of an earlier one. -/
theorem register (h : book.Accounted handles) {text : String} {id : Option String}
    (registered : book.register range text id = .ok (book', handle)) :
    book'.Accounted (handles ++ [handle]) := by
  obtain ⟨new, planned⟩ := action_register registered
  obtain ⟨-, -, rules, -⟩ := register_spec registered
  have earlier {other : Handle} (given : other ∈ handles) : other.action < handle.action := by
    obtain ⟨plan, planned⟩ := h.planned other given
    rw [new]
    exact lt_of_plan? planned
  have entries {entry : String × Handle} (he : entry ∈ book'.rules) :
      entry ∈ book.rules.erase handle.ruleId ∨ entry = (handle.ruleId, handle) := by
    rw [rules] at he
    simpa using he
  refine ⟨?ordered, ?planned, ?given, ?latest⟩
  case ordered =>
    refine List.pairwise_append.2 ⟨h.ordered, List.pairwise_singleton .., ?_⟩
    intro other given last hl
    obtain rfl := List.mem_singleton.1 hl
    exact earlier given
  case planned =>
    intro other given
    rcases List.mem_append.1 given with given | last
    · obtain ⟨plan, known⟩ := h.planned other given
      exact ⟨plan, (extends_register registered).plan?_eq known⟩
    · obtain rfl := List.mem_singleton.1 last
      exact planned
  case given =>
    intro entry he
    rcases entries he with he | rfl
    · exact List.mem_append_left _ (h.given entry (List.mem_of_mem_filter he))
    · exact List.mem_append_right _ (List.mem_singleton_self _)
  case latest =>
    intro entry he other given name
    rcases List.mem_append.1 given with given | last
    · rcases entries he with he | rfl
      · exact h.latest entry (List.mem_of_mem_filter he) other given name
      · exact Nat.le_of_lt (earlier given)
    · obtain rfl := List.mem_singleton.1 last
      rcases entries he with he | rfl
      · -- the rules that stay have other ids
        have other : entry.1 ≠ other.ruleId := by simpa using (List.mem_filter.1 he).2
        exact absurd name.symm other
      · exact Nat.le_refl _

theorem load (h : book.Accounted handles) (stored : List (String × String)) :
    (book.load range stored).1.Accounted (handles ++ (book.load range stored).2) := by
  unfold RuleBook.load
  refine List.foldlRecOn (motive := fun s : RuleBook × List Handle =>
    s.1.Accounted (handles ++ s.2)) stored _ (by simpa using h) ?_
  rintro ⟨loading, loaded⟩ accounted ⟨id, text⟩ -
  dsimp only
  split
  · rw [← List.append_assoc]
    exact accounted.register ‹_›
  · exact accounted

end Accounted

end RuleBook

-- ============================================================================
-- Runs
-- ============================================================================

namespace Activity

/-- The handles that a request gives out. -/
def Request.handles (request : Request) (range : SetPointRange) (book : RuleBook) : List Handle :=
  match request with
  | .register text id =>
    match book.register range text id with
    | .ok (_, handle) => [handle]
    | .error _ => []
  | .load stored => (book.load range stored).2
  | .remove _ | .removeHandle _ | .process _ | .execute _ _ => []

variable {σ : Type} {backend : Backend σ} {initial : Engine σ} {activity next : Activity σ}
  {handles : List Handle}

/-- The activities that requests and steps lead to from an engine without rules, with the handles
    that were given out on the way, oldest first. -/
inductive HandedOut (backend : Backend σ) (initial : Engine σ) : List Handle → Activity σ → Prop
  | start (empty : initial.book = {}) : HandedOut backend initial [] { engine := initial }
  | submit {handles : List Handle} {activity : Activity σ} (request : Request)
      (past : HandedOut backend initial handles activity) :
      HandedOut backend initial
        (handles ++ request.handles activity.engine.range activity.engine.book)
        (activity.submit request)
  | advance {handles : List Handle} {activity next : Activity σ} {self : Nat}
      (past : HandedOut backend initial handles activity) (step : activity.Step backend self next) :
      HandedOut backend initial handles next

/-- Whatever is reached, handles were given out on the way. -/
theorem Reached.exists_handedOut {log : List Contact}
    (reached : Reached backend initial log activity) :
    ∃ handles, HandedOut backend initial handles activity := by
  induction reached with
  | start empty => exact ⟨[], .start empty⟩
  | submit request _ ih =>
    obtain ⟨handles, past⟩ := ih
    exact ⟨_, past.submit request⟩
  | advance _ step ih =>
    obtain ⟨handles, past⟩ := ih
    exact ⟨handles, past.advance step⟩

theorem HandedOut.exists_reached (h : HandedOut backend initial handles activity) :
    ∃ log, Reached backend initial log activity := by
  induction h with
  | start empty => exact ⟨[], .start empty⟩
  | submit request _ ih =>
    obtain ⟨log, reached⟩ := ih
    exact ⟨log, reached.submit request⟩
  | advance _ step ih =>
    obtain ⟨log, reached⟩ := ih
    exact ⟨_, reached.advance step⟩

theorem Request.accounted (request : Request) {range : SetPointRange} {book : RuleBook}
    (h : book.Accounted handles) :
    (request.book range book).Accounted (handles ++ request.handles range book) := by
  cases request with
  | register text id =>
    unfold Request.book Request.handles
    dsimp only
    cases registered : book.register range text id with
    | ok result => exact h.register registered
    | error e => simpa using h
  | load stored => exact h.load stored
  | remove name =>
    rw [Request.handles, List.append_nil]
    exact h.remove name
  | removeHandle handle =>
    rw [Request.handles, List.append_nil]
    exact h.remove handle.ruleId
  | process | execute =>
    rw [Request.handles, List.append_nil]
    exact h

/-- Steps leave the handles accounted for. -/
theorem Advances.accounted {self : Nat} (h : activity.Advances backend self next)
    (sound : activity.engine.book.Sound) (accounted : activity.engine.book.Accounted handles) :
    next.engine.book.Accounted handles := by
  cases h with
  | run task idle proceeds =>
    exact accounted.mono (fun _ he => proceeds.rules_eq ▸ he) fun id _ hp =>
      (proceeds.plan?_eq id).trans hp
  | refuse task held observes | spread task held observes =>
    obtain ⟨readings, rfl⟩ := Engine.exists_after_of_observe sound observes
    exact accounted.mono (fun _ he => he) fun _ _ hp => hp
  | pause | queue | gather => exact accounted

/-- In every reachable activity the handles are accounted for. -/
theorem HandedOut.accounted (past : HandedOut backend initial handles activity) :
    activity.engine.book.Accounted handles := by
  induction past with
  | start empty =>
    dsimp only
    rw [empty]
    exact .empty
  | submit request _ ih => exact request.accounted ih
  | advance past step ih =>
    obtain ⟨log, reached⟩ := past.exists_reached
    exact step.advances.accounted reached.sound ih

-- ============================================================================
-- Removal by a handle
-- ============================================================================

/-- Removing by one handle takes out the rule of another, or its own, and changes nothing but the
    rules. -/
def TakesOut (activity : Activity σ) (handle current : Handle) : Prop :=
  ∃ engine, activity.engine.removeHandle handle = (engine, true) ∧
    activity.submit (.removeHandle handle) = { activity with engine } ∧
    engine = { activity.engine with book := engine.book } ∧
    RuleBook.Withdrawn current activity.engine.book engine.book

/-- What is registered under the id of a handle is what removing by it takes out. -/
theorem Reached.takesOut {log : List Contact} (reached : Reached backend initial log activity)
    {handle current : Handle}
    (found : activity.engine.book.rule? handle.ruleId = some current) :
    activity.TakesOut handle current := by
  have removed := reached.linked.withdrawn_remove reached.sound found
  refine ⟨(activity.engine.remove handle.ruleId).1, ?_, submit_of_task?_eq_none rfl rfl, rfl,
    removed.2⟩
  exact Prod.ext rfl removed.1

/-- What removing by a handle does, whenever the handle was given out.  If it is registered under
    its id, its own rule is taken out.  If nothing is, nothing happens.  If another handle is, that
    was given out later, and its rule is taken out, although no event has waited for the action of
    the handle since. -/
theorem HandedOut.removal_by_handle (past : HandedOut backend initial handles activity)
    {handle : Handle} (given : handle ∈ handles) :
    (activity.engine.book.rule? handle.ruleId = some handle → activity.TakesOut handle handle) ∧
    (activity.engine.book.rule? handle.ruleId = none →
      activity.engine.removeHandle handle = (activity.engine, false) ∧
        activity.submit (.removeHandle handle) = activity ∧
        RuleBook.Idle handle activity.engine.book) ∧
    ∀ current, activity.engine.book.rule? handle.ruleId = some current → current ≠ handle →
      activity.TakesOut handle current ∧ [handle, current].Sublist handles ∧
        RuleBook.Idle handle activity.engine.book := by
  obtain ⟨log, reached⟩ := past.exists_reached
  have accounted := past.accounted
  refine ⟨reached.takesOut, fun unknown => ?_, fun current found other => ?_⟩
  · have same := RuleBook.remove_of_rule?_eq_none unknown
    have idle := accounted.idle reached.linked given (by simp [unknown])
    refine ⟨?_, submit_of_task?_eq_none rfl (congrArg Prod.fst same), idle⟩
    rw [Engine.removeHandle, RuleBook.removeHandle, same]
  · refine ⟨reached.takesOut found, accounted.sublist_of_rule? given found other, ?_⟩
    refine accounted.idle reached.linked given fun same => other ?_
    exact Option.some.inj (found.symm.trans same)

/-- A hall without devices. -/
def emptyHall : Engine Unit := { directory := .empty, range := ⟨16, 30⟩, outside := () }

def lightsUp : Request := .register "if motion in hall then light on" (some "hall")

def lightsOut : Request := .register "if no motion in hall then light off" (some "hall")

/-- One id was given first to the rule for the light and then to its opposite. -/
def hallTwice : Activity Unit :=
  (({ engine := emptyHall } : Activity Unit).submit lightsUp).submit lightsOut

/-- The handle that the first of the two registrations gave out, and that of the second. -/
def firstHandle : Handle := ⟨"hall", "if motion in hall then light on", 0, 0⟩

def secondHandle : Handle := ⟨"hall", "if no motion in hall then light off", 1, 1⟩

theorem handedOut_hallTwice :
    HandedOut Backend.obliging emptyHall [firstHandle, secondHandle] hallTwice := by
  have start : HandedOut Backend.obliging emptyHall [] { engine := emptyHall } := .start rfl
  have first : lightsUp.handles emptyHall.range emptyHall.book = [firstHandle] := by decide
  have second : lightsOut.handles emptyHall.range (lightsUp.book emptyHall.range emptyHall.book)
      = [secondHandle] := by decide
  have past := (start.submit lightsUp).submit lightsOut
  rw [show ({ engine := emptyHall } : Activity Unit).engine = emptyHall from rfl, first] at past
  have range : (({ engine := emptyHall } : Activity Unit).submit lightsUp).engine.range
      = emptyHall.range := rfl
  have book : (({ engine := emptyHall } : Activity Unit).submit lightsUp).engine.book
      = lightsUp.book emptyHall.range emptyHall.book := rfl
  rw [range, book, second] at past
  exact past

/-- Of the two handles the second takes out its own rule. -/
theorem removal_by_handle_hallTwice :
    HandedOut Backend.obliging emptyHall [firstHandle, secondHandle] hallTwice ∧
      secondHandle ∈ [firstHandle, secondHandle] ∧
      hallTwice.engine.book.rule? secondHandle.ruleId = some secondHandle ∧
      hallTwice.TakesOut secondHandle secondHandle := by
  have given : secondHandle ∈ [firstHandle, secondHandle] := by decide
  have found : hallTwice.engine.book.rule? secondHandle.ruleId = some secondHandle := by
    decide
  exact ⟨handedOut_hallTwice, given, found, (handedOut_hallTwice.removal_by_handle given).1 found⟩

/-- The first handle, whose rule was replaced, takes out the rule of the second. -/
theorem replaced_handle_hallTwice :
    HandedOut Backend.obliging emptyHall [firstHandle, secondHandle] hallTwice ∧
      hallTwice.engine.book.rules = [("hall", secondHandle)] ∧
      (hallTwice.engine.removeHandle firstHandle).2 = true ∧
      (hallTwice.engine.removeHandle firstHandle).1.book.rules = [] := by
  refine ⟨handedOut_hallTwice, ?_⟩
  decide

end Activity

end HomeAutomation
