/-
  HomeAutomation.Proofs.Engine.Commands

  The commands that leave the engine.  Every call that devices see was started
  by a run that then waited for it.  If it sets a state, either the run carries
  out the action of a rule and the state is within the limits of rules, or the
  command of the run has failed and it gives back a state that it has read from
  the device or that is recorded.
-/

import HomeAutomation.Device.House
import HomeAutomation.Proofs.Engine.Correspondence
import HomeAutomation.Proofs.Engine.CriticalSection
import HomeAutomation.Proofs.Rule.Acceptance
import HomeAutomation.Proofs.Rule.Limits

namespace HomeAutomation

variable {σ : Type}

-- ============================================================================
-- Actions
-- ============================================================================

/-- An action is that of a rule that was read. -/
def Action.IsRuled (range : SetPointRange) (a : Action) : Prop :=
  ∃ text rule, Rule.parse range text = .ok rule ∧ a.spec = rule.action ∧
    a.params = .ofSpec rule.action

/-- Every action ever made is that of a rule that was read. -/
def RuleBook.Authored (range : SetPointRange) (book : RuleBook) : Prop :=
  ∀ (id : Nat) (plan : Action), book.plan? id = some plan → plan.IsRuled range

namespace RuleBook.Authored

variable {range : SetPointRange} {book book' : RuleBook}

theorem congr (authored : book.Authored range) (same : ∀ id, book'.plan? id = book.plan? id) :
    book'.Authored range := fun id plan h => authored id plan ((same id).symm.trans h)

theorem of_actions (authored : book.Authored range) (same : book'.actions = book.actions) :
    book'.Authored range :=
  authored.congr fun id => by rw [plan?, plan?, action?, action?, same]

theorem remove (authored : book.Authored range) (ruleId : String) :
    (book.remove ruleId).1.Authored range := by
  refine authored.of_actions ?_
  unfold RuleBook.remove
  split <;> rfl

theorem chooseId (authored : book.Authored range) (id : Option String) :
    (book.chooseId id).1.Authored range := by
  refine authored.of_actions ?_
  unfold RuleBook.chooseId
  split
  · split <;> rfl
  · rfl

/-- The action of a rule that is entered is the last. -/
theorem enter (authored : book.Authored range) (ruleId : String) {text : String} {rule : Rule}
    (read : Rule.parse range text = .ok rule) :
    (book.enter ruleId text rule).1.Authored range := by
  unfold RuleBook.enter
  split
  · exact authored
  · intro id plan h
    obtain ⟨a, ha, rfl⟩ := Option.map_eq_some_iff.1 h
    rcases Nat.lt_or_ge id book.actions.length with old | new
    · rw [action?, List.getElem?_append_left old] at ha
      exact authored id _ (Option.map_eq_some_iff.2 ⟨a, ha, rfl⟩)
    · rw [action?, List.getElem?_append_right new] at ha
      obtain rfl := List.mem_singleton.1 (List.mem_of_getElem? ha)
      exact ⟨text, rule, read, rfl, rfl⟩

theorem register (authored : book.Authored range) {text : String} {id : Option String}
    {handle : Handle} (h : book.register range text id = .ok (book', handle)) :
    book'.Authored range := by
  obtain ⟨rule, read, entered⟩ := exists_of_register h
  have same : book' = _ := (congrArg Prod.fst entered).symm
  rw [same]
  exact ((authored.chooseId id).remove _).enter _ read

theorem request (authored : book.Authored range) (request : Activity.Request) :
    (request.book range book).Authored range := by
  cases request with
  | register text id =>
    simp only [Activity.Request.book]
    split
    · exact authored.register ‹_›
    · exact authored
  | remove ruleId => exact authored.remove ruleId
  | removeHandle handle => exact authored.remove handle.ruleId
  | load stored => exact load_induction (fun _ _ _ _ _ h hr => h.register hr) book stored authored
  | process | execute => exact authored

end RuleBook.Authored

namespace Activity

-- ============================================================================
-- Moments of a run of the engine
-- ============================================================================

/-- The activities that requests and steps lead to from an activity, with what was said to devices
    on the way. -/
inductive Later (backend : Backend σ) (activity : Activity σ) : List Contact → Activity σ → Prop
  | refl : Later backend activity [] activity
  | submit {log : List Contact} {next : Activity σ} (request : Request)
      (later : Later backend activity log next) : Later backend activity log (next.submit request)
  | advance {log : List Contact} {next last : Activity σ} {self : Nat}
      (later : Later backend activity log next) (step : next.Step backend self last) :
      Later backend activity (log ++ next.contacts backend self) last

/-- A call was started on the way to an activity, after those before it.  At an earlier moment it
    was the last that had been started, and a run waited for it. -/
structure Issued (backend : Backend σ) (initial : Engine (σ × List DeviceCall))
    (log : List Contact) (activity : Activity (σ × List DeviceCall)) (before : List DeviceCall)
    (call : DeviceCall) (earlier : List Contact) (moment : Activity (σ × List DeviceCall))
    (id : Nat) (run : Run) : Prop where
  reached : Reached backend.recording initial earlier moment
  later : ∃ since, moment.Later backend.recording since activity ∧ log = earlier ++ since
  started : moment.engine.outside.2 = before ++ [call]
  task : moment.tasks[id]? = some (.run run)
  waits : run.call? = some call

section Calls

variable {backend : Backend σ} {initial : Engine (σ × List DeviceCall)} {log : List Contact}
  {activity next : Activity (σ × List DeviceCall)} {self : Nat}

/-- A step starts no call, or one that its run then waits for. -/
theorem Advances.calls (h : activity.Advances backend.recording self next) :
    next.engine.outside.2 = activity.engine.outside.2 ∨
      ∃ run call, next.tasks[self]? = some (.run run) ∧ run.call? = some call ∧
        next.engine.outside.2 = activity.engine.outside.2 ++ [call] := by
  cases h with
  | pause | queue | gather => exact .inl rfl
  | refuse task held observes | spread task held observes =>
    exact .inl (congrArg Prod.snd (Engine.outside_observe observes))
  | @run run step task idle proceeds =>
    have calls := proceeds.calls_eq
    cases waits : step.run.call? with
    | none =>
      rw [waits] at calls
      exact .inl (calls.trans (List.append_nil _))
    | some call =>
      rw [waits] at calls
      refine .inr ⟨step.run, call, ?_, waits, calls⟩
      simp only [put, getElem?_set_task task, if_pos]

/-- Every call was started by a run that then waited for it. -/
theorem Reached.exists_issued (reached : Reached backend.recording initial log activity)
    (fresh : initial.outside.2 = []) {before after : List DeviceCall} {call : DeviceCall}
    (calls : activity.engine.outside.2 = before ++ call :: after) :
    ∃ earlier moment id run,
      Issued backend initial log activity before call earlier moment id run := by
  induction reached generalizing after with
  | start empty =>
    dsimp only at calls
    rw [fresh] at calls
    simp at calls
  | submit request reached ih =>
    obtain ⟨earlier, moment, id, run, issued⟩ := ih calls
    obtain ⟨since, later, said⟩ := issued.later
    exact ⟨earlier, moment, id, run, { issued with later := ⟨since, later.submit request, said⟩ }⟩
  | @advance log activity next self reached step ih =>
    have old {rest : List DeviceCall}
        (calls : activity.engine.outside.2 = before ++ call :: rest) :
        ∃ earlier moment id run, Issued backend initial
          (log ++ activity.contacts backend.recording self) next before call earlier moment id
          run := by
      obtain ⟨earlier, moment, id, run, issued⟩ := ih calls
      obtain ⟨since, later, said⟩ := issued.later
      refine ⟨earlier, moment, id, run, { issued with later := ⟨_, later.advance step, ?_⟩ }⟩
      rw [said, List.append_assoc]
    obtain same | ⟨run, last, task, waits, started⟩ := step.advances.calls
    · exact old (same.symm.trans calls)
    · rw [calls] at started
      rcases List.eq_nil_or_concat after with rfl | ⟨rest, final, rfl⟩
      · -- the call has just been started
        obtain ⟨rfl, same⟩ := List.append_inj' started rfl
        obtain rfl : call = last := List.singleton_inj.1 same
        exact ⟨_, next, self, run, reached.advance step, ⟨[], .refl, by simp⟩, calls, task, waits⟩
      · rw [List.concat_eq_append, ← List.cons_append, ← List.append_assoc] at started
        exact old (List.append_inj' started rfl).1.symm

end Calls

-- ============================================================================
-- Commands
-- ============================================================================

namespace Reached

variable {backend : Backend σ} {initial : Engine σ} {log : List Contact} {activity : Activity σ}

/-- Every action is that of a rule that was read, in every reachable activity. -/
theorem authored (reached : Reached backend initial log activity) :
    activity.engine.book.Authored initial.range := by
  induction reached with
  | start empty =>
    intro id plan h
    rw [empty] at h
    simp [RuleBook.plan?, RuleBook.action?] at h
  | submit request reached ih =>
    rw [← reached.range_eq] at ih ⊢
    exact ih.request request
  | advance reached step ih =>
    cases step.advances with
    | run task idle proceeds => exact ih.congr proceeds.plan?_eq
    | refuse task held observes | spread task held observes =>
      obtain ⟨readings, rfl⟩ := Engine.exists_after_of_observe reached.sound observes
      exact ih.of_actions rfl
    | pause | queue | gather => exact ih

/-- A run that waits for its command sends a state that its rule admits. -/
theorem admits_of_commanding (reached : Reached backend initial log activity) {id : Nat} {run : Run}
    (task : activity.tasks[id]? = some (.run run)) :
    ∃ action text i rule, activity.engine.book.plan? run.action = some action ∧
      action.spec = rule.action ∧ Rule.parse initial.range text = .ok rule ∧
      Rule.Written initial.range (Text.normalWords text) i rule ∧
      rule.action.Admits initial.range run.desired := by
  obtain ⟨action, planned, carries⟩ := reached.assigned.carries task
  obtain ⟨text, rule, read, spec, params⟩ := reached.authored _ _ planned
  obtain ⟨i, written⟩ := Rule.written_of_parse read
  refine ⟨action, text, i, rule, planned, spec, read, written, ?_⟩
  obtain ⟨p, command⟩ := written.action
  rw [carries.desired, Action.desired, spec, params]
  exact command.admits

/-- A run that waits for its device to be restored gives it a state that it has read from it, or
    that is recorded. -/
theorem known_of_restoring (reached : Reached backend initial log activity) {id : Nat} {run : Run}
    (task : activity.tasks[id]? = some (.run run)) {target : DeviceTarget} {failure : CallError}
    {state : DeviceState} (phase : run.phase = .restoring target failure state) :
    ⟨id, target.deviceId, .read (.state state)⟩ ∈ log ∨
      activity.engine.records.get? target.deviceId = some state := by
  have inside : run.isInside = true := by rw [Run.isInside, phase]
  have claim : run.claim? = some target.deviceId := by simp [Run.claim?, Run.target?, phase]
  obtain ⟨visits, rest, serial⟩ := reached.serial target.deviceId
  obtain ⟨said, rfl, begun⟩ := serial.underway.eq_of_inside reached.locksKept task inside claim
  obtain ⟨reply, answer, rfl, -, -, before⟩ := begun.of_restoring phase
  cases reply with
  | state found =>
    obtain rfl : found = state := Option.some.inj before
    have among : ⟨id, target.deviceId, .read (.state found)⟩ ∈ saidTo target.deviceId log := by
      rw [serial.said]
      simp
    exact .inl (List.mem_of_mem_filter among)
  | unknown | failed reason => exact .inr before

end Reached

/-- The commands that devices are sent, on any run of the engine.  Each was started by a run.  The
    run carries out the action of a rule, which was read from a text that writes it, and the state
    is one that the rule admits; or the command of the run has failed, and the state is one that the
    run has read from the device, or the one that is recorded for it. -/
theorem Reached.commands_in_range {backend : Backend σ} {initial : Engine (σ × List DeviceCall)}
    {log : List Contact} {activity : Activity (σ × List DeviceCall)}
    (reached : Reached backend.recording initial log activity) (fresh : initial.outside.2 = [])
    {before after : List DeviceCall} {target : DeviceTarget} {state : DeviceState}
    (calls : activity.engine.outside.2 = before ++ .command target state :: after) :
    ∃ earlier moment id run, Issued backend initial log activity before (.command target state)
        earlier moment id run ∧
      ((run.phase = .commanding target ∧
          ∃ action text i rule, moment.engine.book.plan? run.action = some action ∧
            action.spec = rule.action ∧ Rule.parse initial.range text = .ok rule ∧
            Rule.Written initial.range (Text.normalWords text) i rule ∧
            rule.action.Admits initial.range state) ∨
        ∃ failure, run.phase = .restoring target failure state ∧
          (⟨id, target.deviceId, .read (.state state)⟩ ∈ earlier ∨
            moment.engine.records.get? target.deviceId = some state)) := by
  obtain ⟨earlier, moment, id, run, issued⟩ := reached.exists_issued fresh calls
  refine ⟨earlier, moment, id, run, issued, ?_⟩
  have waits := issued.waits
  unfold Run.call? at waits
  split at waits
  · cases waits
  · rename_i found phase
    cases waits
    exact .inl ⟨phase, issued.reached.admits_of_commanding issued.task⟩
  · rename_i found failure before phase
    cases waits
    exact .inr ⟨failure, phase, issued.reached.known_of_restoring issued.task phase⟩
  · cases waits

/-- A hall whose air conditioner is off and fails when it is to be set to 22 degrees. -/
def coolHall : Activity (House × List DeviceCall) :=
  let house := (({} : House).drift "unit" (some { power := false })).scriptCommands "unit"
    [some (.breaks "no route to host")]
  let engine : Engine (House × List DeviceCall) :=
    { directory := .ofRooms [⟨"hall", .null, [⟨"unit", .null, "ac", "hall"⟩]⟩]
      range := ⟨16, 30⟩
      outside := (house, []) }
  (({ engine } : Activity _).submit
    (.register "if temp > 26.5 in hall then ac on 22" none)).submit (.execute 0 false)

/-- The state that a call sets, by its power, its temperature and its brightness. -/
def setBy : DeviceCall → Option (Bool × Option Double × Option Int)
  | .read _ => none
  | .command _ state => some (state.power, state.temperature, state.brightness)

/-- The air conditioner is read, set to 22 degrees, and switched off again. -/
theorem commands_in_range_coolHall : ∃ (initial : Engine (House × List DeviceCall))
    (log : List Contact) (activity : Activity (House × List DeviceCall)) (target : DeviceTarget)
    (state : DeviceState) (before after : List DeviceCall),
    Reached House.backend.recording initial log activity ∧ initial.outside.2 = [] ∧
      activity.engine.outside.2 = before ++ .command target state :: after ∧
      activity.engine.outside.2.map setBy
        = [none, some (true, some 22, none), some (false, none, none)] ∧
      ∃ earlier moment id run, Issued House.backend initial log activity before
        (.command target state) earlier moment id run := by
  have view : (coolHall.follow House.backend.recording [0, 0, 0, 0, 0]).map
        (fun f => f.2.engine.outside.2.map setBy)
      = some [none, some (true, some 22, none), some (false, none, none)] := by decide +kernel
  obtain ⟨⟨log, activity⟩, followed, sets⟩ := Option.map_eq_some_iff.1 view
  have reached : Reached House.backend.recording _ log activity :=
    (((Reached.start rfl).submit _).submit _).steps (Steps.of_follow followed)
  obtain ⟨first, rest, calls, -, others⟩ := List.map_eq_cons_iff.1 sets
  obtain ⟨second, after, rfl, set, -⟩ := List.map_eq_cons_iff.1 others
  cases second with
  | read target => cases set
  | command target state =>
    obtain ⟨earlier, moment, id, run, issued, -⟩ :=
      reached.commands_in_range rfl (calls.trans (List.singleton_append).symm)
    exact ⟨_, log, activity, target, state, [first], after, reached, rfl, calls, sets, earlier,
      moment, id, run, issued⟩

end Activity

end HomeAutomation
