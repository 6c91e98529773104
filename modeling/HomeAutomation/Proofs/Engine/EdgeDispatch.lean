/-
  HomeAutomation.Proofs.Engine.EdgeDispatch

  What a snapshot does when nothing else goes on.  An event takes up the reading
  that it watches and can use, and no other event changes; the actions of the
  events whose state changed, and only those, are reported, each once and in
  order: those of an active event as carried out by a run of their own, those of
  an inactive event as skipped.
-/

import HomeAutomation.Proofs.Engine.Observation
import HomeAutomation.Proofs.Engine.SingleDispatch

namespace HomeAutomation

-- ============================================================================
-- Events before and after
-- ============================================================================

namespace EventRegistry

variable {α : Type} {reg : EventRegistry α} {readings : List SensorReading}

/-- A registered event sees a value in a reading that it watches. -/
structure Sees (reg : EventRegistry α) (r : SensorReading) (id : Nat) (e : Event α)
    (seen : EventValue) : Prop where
  registered : id ∈ reg.registered
  event : reg.event? id = some e
  key : r.key = e.condition.key
  see : e.condition.see r.value = .ok seen

/-- Events have taken up what they saw in readings, and all else is as it was. -/
structure Took (before : EventRegistry α) (readings : List SensorReading)
    (after : EventRegistry α) : Prop where
  alike : before.Alike after
  took : ∀ {r : SensorReading} {id : Nat} {e : Event α} {seen : EventValue}, r ∈ readings →
    before.Sees r id e seen →
    ∃ holds, e.condition.test seen = .ok holds ∧ after.event? id = some (e.saw seen holds)
  untouched : ∀ {id : Nat}, (∀ r ∈ readings, ∀ e seen, ¬ before.Sees r id e seen) →
    after.event? id = before.event? id

/-- The state of an event. -/
def state? (reg : EventRegistry α) (id : Nat) : Option Bool := (reg.event? id).map (·.state)

/-- The events whose state differs, in the order of readings and then of registration. -/
def changed (before : EventRegistry α) (readings : List SensorReading)
    (after : EventRegistry α) : List Nat :=
  readings.flatMap fun r => before.registered.filter fun id =>
    before.watches r.key id && before.state? id != after.state? id

theorem mem_matching (indexed : reg.Indexed) {r : SensorReading} {id : Nat} {e : Event α}
    (registered : id ∈ reg.registered) (event : reg.event? id = some e)
    (key : r.key = e.condition.key) : id ∈ reg.matching r.metric r.location := by
  rw [indexed.matching_eq, List.mem_filter]
  exact ⟨registered, by simpa [watches, event, SensorReading.key] using key.symm⟩

theorem took_observed (indexed : reg.Indexed)
    (ruled : ∀ {id : Nat} {e : Event α}, reg.event? id = some e → e.condition.Ruled)
    (keys : (readings.map (·.key)).Nodup) (usable : ∀ r ∈ readings, ¬ reg.Blocks r) :
    reg.Took readings (reg.observed readings) := by
  refine ⟨reg.alike_observed readings, fun {r id e seen} hr sees => ?_, fun {id} unseen => ?_⟩
  · have hid := mem_matching indexed sees.registered sees.event sees.key
    obtain ⟨holds, test, update⟩ := Event.update_of_seen (ruled sees.event) sees.key sees.see
    refine ⟨holds, test, ?_⟩
    rw [event?_observed_of_mem indexed keys hr hid, sees.event, Option.map_some, update]
  · by_cases watched : ∃ r ∈ readings, id ∈ reg.matching r.metric r.location
    · obtain ⟨r, hr, hid⟩ := watched
      obtain ⟨registered, e, event, key⟩ := indexed.exists_of_matching hid
      rw [event?_observed_of_mem indexed keys hr hid, event, Option.map_some]
      cases hs : e.condition.see r.value with
      | ok seen => exact absurd ⟨registered, event, key, hs⟩ (unseen r hr e seen)
      | error error =>
        have bounded : ¬ r.Overflows := fun isOver =>
          usable r hr ⟨isOver, List.ne_nil_of_mem hid⟩
        rw [Event.update_of_unusable key hs bounded]
    · exact event?_observed_of_notMem reg fun r hr hid => watched ⟨r, hr, hid⟩

theorem state?_observed (indexed : reg.Indexed) (keys : (readings.map (·.key)).Nodup)
    {r : SensorReading} (hr : r ∈ readings) {id : Nat}
    (hid : id ∈ reg.matching r.metric r.location) :
    (reg.event? id).any (·.flips r) = (reg.state? id != (reg.observed readings).state? id) := by
  obtain ⟨-, e, event, -⟩ := indexed.exists_of_matching hid
  simp only [state?, event?_observed_of_mem indexed keys hr hid, event, Option.map_some,
    Option.any_some, Event.flips]
  cases e.state <;> cases (e.update r).1.state <;> rfl

theorem flipped_eq_changed (indexed : reg.Indexed) (keys : (readings.map (·.key)).Nodup) :
    reg.flipped readings = reg.changed readings (reg.observed readings) := by
  refine List.flatMap_congr fun r hr => ?_
  rw [List.filter_congr fun id hid => state?_observed indexed keys hr hid, indexed.matching_eq,
    List.filter_filter]
  exact List.filter_congr fun id _ => Bool.and_comm _ _

/-- The events found are all whose state differs. -/
theorem mem_changed_iff (indexed : reg.Indexed) (id : Nat) :
    id ∈ reg.changed readings (reg.observed readings)
      ↔ reg.state? id ≠ (reg.observed readings).state? id := by
  unfold changed
  simp only [List.mem_flatMap, List.mem_filter, Bool.and_eq_true, bne_iff_ne]
  constructor
  · rintro ⟨r, -, -, -, differs⟩
    exact differs
  · intro differs
    by_cases watched : ∃ r ∈ readings, id ∈ reg.matching r.metric r.location
    · obtain ⟨r, hr, hid⟩ := watched
      rw [indexed.matching_eq, List.mem_filter] at hid
      exact ⟨r, hr, hid.1, hid.2, differs⟩
    · refine absurd ?_ differs
      rw [state?, state?, event?_observed_of_notMem reg fun r hr hid => watched ⟨r, hr, hid⟩]

end EventRegistry

-- ============================================================================
-- Reports
-- ============================================================================

namespace RuleBook

/-- The actions that events tell, each with its event, in the order of attachment. -/
def told (book : RuleBook) (events : List Nat) : List (Event Nat × Nat) :=
  events.flatMap fun id => (book.events.event? id).toList.flatMap fun e => e.actions.map (e, ·)

/-- Outcomes report on actions that were told, in order.  The action of an active event has been
    carried out by the next of the runs, the action of an inactive event is skipped. -/
inductive Reported (book : RuleBook) :
    List (Event Nat × Nat) → List Run → List ActionOutcome → Prop
  | nil : Reported book [] [] []
  | skipped {e : Event Nat} {id : Nat} {a : Action} {told : List (Event Nat × Nat)}
      {runs : List Run} {outcomes : List ActionOutcome} (inactive : e.state = false)
      (action : book.action? id = some a) (rest : Reported book told runs outcomes) :
      Reported book ((e, id) :: told) runs (.skip a.ruleId e.condition.describe :: outcomes)
  | carriedOut {e : Event Nat} {id : Nat} {a : Action} {told : List (Event Nat × Nat)}
      {run : Run} {runs : List Run} {result : Except ExecuteError ExecuteResult}
      {outcomes : List ActionOutcome} (active : e.state = true)
      (action : book.action? id = some a) (own : run.action = id) (unforced : run.force = false)
      (isOver : run.result? = some result) (rest : Reported book told runs outcomes) :
      Reported book ((e, id) :: told) (run :: runs)
        (.ofResult a.ruleId e.condition.describe result :: outcomes)

/-- The notification of an action about its event. -/
def noticeOf (book : RuleBook) (told : Event Nat × Nat) : Option Notice :=
  (book.action? told.2).map fun a =>
    ⟨told.2, a.ruleId, told.1.condition.describe, told.1.state⟩

theorem flatMap_notices (book : RuleBook) (events : List Nat) :
    events.flatMap book.notices = (book.told events).filterMap book.noticeOf := by
  unfold told
  rw [List.filterMap_flatMap]
  refine List.flatMap_congr fun id _ => ?_
  unfold notices
  cases book.events.event? id with
  | none => rfl
  | some e =>
    simp only [Option.toList_some, List.flatMap_cons, List.flatMap_nil, List.append_nil,
      List.filterMap_map]
    rfl

/-- No action is told twice. -/
theorem Sound.nodup_told {book : RuleBook} (sound : book.Sound) {events : List Nat}
    (nodup : events.Nodup) : ((book.told events).map Prod.snd).Nodup := by
  have actions : (book.told events).map Prod.snd
      = events.flatMap fun id => (book.events.event? id).toList.flatMap (·.actions) := by
    simp [told, List.map_flatMap, Function.comp_def]
  rw [actions, List.nodup_flatMap]
  refine ⟨fun id _ => ?_, nodup.imp fun {id id'} hne action h h' => hne ?_⟩
  · cases he : book.events.event? id with
    | none => exact .nil
    | some e => simpa [he] using sound.nodup he
  · obtain ⟨e, he, ha⟩ := List.mem_flatMap.1 h
    obtain ⟨e', he', ha'⟩ := List.mem_flatMap.1 h'
    exact sound.apart (Option.mem_toList.1 he) (Option.mem_toList.1 he') ha ha'

theorem Sound.exists_action {book : RuleBook} (sound : book.Sound) {events : List Nat} :
    ∀ told ∈ book.told events, ∃ a, book.action? told.2 = some a := by
  rintro ⟨e, action⟩ h
  obtain ⟨id, -, h⟩ := List.mem_flatMap.1 h
  obtain ⟨e', he, h⟩ := List.mem_flatMap.1 h
  obtain ⟨action', ha, heq⟩ := List.mem_map.1 h
  cases heq
  exact ⟨_, List.getElem?_eq_getElem (sound.bounded (Option.mem_toList.1 he) _ ha)⟩

end RuleBook

namespace Activity

variable {σ : Type}

theorem runResult?_of_run {activity : Activity σ} {id : Nat} {run : Run}
    (task : activity.tasks[id]? = some (.run run)) : activity.runResult? id = run.result? := by
  simp [runResult?, task]

/-- The slots of notifications and their runs give the report on the actions that were told. -/
theorem reported_of_slots {activity : Activity σ} {book : RuleBook} {parent : Option Nat}
    (plans : ∀ id, activity.engine.book.plan? id = book.plan? id)
    {told : List (Event Nat × Nat)} (known : ∀ t ∈ told, ∃ a, book.action? t.2 = some a)
    {first : Nat} {slots : List Slot} {runs : List Run} {outcomes : List ActionOutcome}
    (fans : slotsOf book false parent first (told.filterMap book.noticeOf)
      = (slots, runs.map Run.unbegun))
    (tasks : ∀ i run, runs[i]? = some run → activity.tasks[first + i]? = some (.run run))
    (outcomes? : activity.outcomes? slots = some outcomes) :
    activity.engine.book.Reported told runs outcomes := by
  induction told generalizing first slots runs outcomes with
  | nil =>
    obtain ⟨rfl, hruns⟩ := Prod.mk.inj fans
    obtain rfl : runs = [] := List.map_eq_nil_iff.1 hruns.symm
    obtain rfl : [] = outcomes := by simpa [Activity.outcomes?] using outcomes?
    exact .nil
  | cons head rest ih =>
    obtain ⟨e, id⟩ := head
    obtain ⟨a, ha⟩ : ∃ a, book.action? id = some a := known _ List.mem_cons_self
    obtain ⟨a', ha', plan⟩ : ∃ a', activity.engine.book.action? id = some a' ∧
        a'.plan = a.plan := by
      have := plans id
      rw [RuleBook.plan?, RuleBook.plan?, ha] at this
      exact Option.map_eq_some_iff.1 this
    have ruleId : a.ruleId = a'.ruleId := by
      show a.plan.ruleId = a'.plan.ruleId
      rw [plan]
    have known' : ∀ t ∈ rest, ∃ a, book.action? t.2 = some a := fun t ht =>
      known t (List.mem_cons_of_mem _ ht)
    have notice : book.noticeOf (e, id) = some ⟨id, a.ruleId, e.condition.describe, e.state⟩ := by
      simp [RuleBook.noticeOf, ha]
    rw [List.filterMap_cons_some notice, slotsOf] at fans
    cases active : e.state with
    | true =>
      simp only [ha, active, Option.filter_some_pos] at fans
      obtain ⟨rfl, hruns⟩ := Prod.mk.inj fans
      obtain ⟨run, runs', rfl, hrun, hruns'⟩ := List.map_eq_cons_iff.1 hruns.symm
      obtain ⟨outcome, others, here, there, rfl⟩ := outcomes?_cons.1 outcomes?
      have htask : activity.tasks[first]? = some (.run run) := tasks 0 run rfl
      obtain ⟨result, isOver, rfl⟩ : ∃ result, run.result? = some result ∧
          .ofResult a.ruleId e.condition.describe result = outcome := by
        simpa [outcome?, runResult?_of_run htask, Notice.outcome] using here
      rw [ruleId]
      refine .carriedOut active ha' (congrArg Run.action hrun) (congrArg Run.force hrun) isOver
        (ih known' (Prod.ext rfl hruns'.symm) (fun i r hr => ?_) there)
      rw [Nat.add_assoc, Nat.add_comm 1 i]
      exact tasks (i + 1) r hr
    | false =>
      simp only [ha, active, Option.filter_some_neg] at fans
      obtain ⟨rfl, hruns⟩ := Prod.mk.inj fans
      obtain ⟨outcome, others, here, there, rfl⟩ := outcomes?_cons.1 outcomes?
      obtain rfl : .skip a.ruleId e.condition.describe = outcome := by
        simpa [outcome?, Notice.outcome] using here
      rw [ruleId]
      exact .skipped active ha' (ih known' (Prod.ext rfl hruns) tasks there)

-- ============================================================================
-- The dispatch
-- ============================================================================

theorem Fanned.told_eq {before : List Task} {snapshot : Json} {engine : Engine σ}
    {notices : List Notice} {log : List Contact} {activity : Activity σ} {phase : DispatchPhase}
    {slots : List Slot} {runs : List Run}
    (fanned : activity.Fanned before snapshot engine notices log phase slots runs)
    (events : List Nat) : activity.engine.book.told events = engine.book.told events := by
  unfold RuleBook.told
  rw [fanned.events]

/-- A fan-out whose outcomes are known has reported on all actions that its events tell. -/
theorem Fanned.reported {before : List Task} {snapshot : Json} {engine : Engine σ}
    {events : List Nat} {log : List Contact} {activity : Activity σ} {phase : DispatchPhase}
    {slots : List Slot} {runs : List Run} {outcomes : List ActionOutcome}
    (fanned : activity.Fanned before snapshot engine (engine.notices events) log phase slots runs)
    (sound : engine.book.Sound) (known : activity.outcomes? slots = some outcomes) :
    activity.engine.book.Reported (activity.engine.book.told events) runs outcomes := by
  have fans := fanned.fans
  rw [Engine.notices, RuleBook.flatMap_notices] at fans
  rw [fanned.told_eq]
  refine reported_of_slots fanned.plans sound.exists_action fans (fun i run hi => ?_) known
  rw [fanned.tasks, List.getElem?_append_right (by omega),
    show before.length + 1 + i - before.length = i + 1 by omega]
  simp [hi]

/-- A snapshot that is dispatched while nothing else goes on, by any order of steps.  The events
    take up what they see in its readings.  The outcomes report, in the order of readings, of
    registration and of attachment, on the actions of all events whose state changed: each action
    once, of an active event as its own run has ended, of an inactive event as skipped.  These runs
    are the only ones, and only they have dealt with devices. -/
theorem Reached.dispatch_edges {backend : Backend σ} {initial : Engine σ} {past log : List Contact}
    {quiet activity : Activity σ} {snapshot : Json} {outcomes : List ActionOutcome}
    (reached : Reached backend initial past quiet) (isOver : quiet.Quiet)
    (steps : (quiet.submit (.process snapshot)).Steps backend log activity)
    (result : activity.dispatchResult? quiet.tasks.length = some (.ok outcomes)) :
    ∃ readings edges runs, Snapshot.readings snapshot = .ok readings ∧
      quiet.engine.book.events.Took readings activity.engine.book.events ∧
      edges = quiet.engine.book.events.changed readings activity.engine.book.events ∧
      edges.Nodup ∧
      (∀ id, id ∈ edges ↔
        quiet.engine.book.events.state? id ≠ activity.engine.book.events.state? id) ∧
      ((activity.engine.book.told edges).map Prod.snd).Nodup ∧
      activity.engine.book.Reported (activity.engine.book.told edges) runs outcomes ∧
      activity.tasks = quiet.tasks ++ .dispatch ⟨snapshot, .finished (.ok outcomes)⟩
        :: runs.map .run ∧
      (∀ contact ∈ log, quiet.tasks.length < contact.task ∧
        contact.task ≤ quiet.tasks.length + runs.length) := by
  have sound := reached.sound
  have indexed := sound.indexed
  obtain ⟨engine, events, slots, runs, observes, fanned, known⟩ :=
    (reached.solo isOver steps).returned result
  obtain ⟨readings, hr, usable, rfl, rfl⟩ := Engine.observe_eq_ok sound observes
  have keys := Snapshot.nodup_keys_readings hr
  have after : activity.engine.book.events = quiet.engine.book.events.observed readings :=
    fanned.events
  have found := EventRegistry.flipped_eq_changed indexed keys
  have nodup := EventRegistry.nodup_flipped indexed keys
  have soundAfter := Engine.sound_after sound readings
  refine ⟨readings, _, runs, hr, ?_, after ▸ found, nodup, fun id => ?_, ?_,
    fanned.reported soundAfter known, fanned.tasks, fanned.contacts⟩
  · rw [after]
    exact EventRegistry.took_observed indexed sound.ruled keys usable
  · rw [after, found]
    exact EventRegistry.mem_changed_iff indexed id
  · rw [fanned.told_eq]
    exact soundAfter.nodup_told nodup

/-- A home whose lamp goes on with motion in the hall and off without. -/
def home : Activity Unit :=
  let engine : Engine Unit :=
    { directory := .ofRooms [⟨"hall", .null, [⟨"lamp", .null, "light", "hall"⟩]⟩]
      range := ⟨16, 30⟩
      outside := () }
  (({ engine } : Activity _).submit
    (.register "if motion in hall then light on" (some "on"))).submit
      (.register "if no motion in hall then light off" (some "off"))

/-- The snapshot of the hall with or without motion. -/
def motionInHall (moving : Bool) : Json := .object [("motion", .object [("hall", .bool moving)])]

/-- When motion ends, the one event is skipped and the other is carried out. -/
theorem dispatch_edges_home : ∃ (quiet activity : Activity Unit) (log : List Contact)
      (outcomes : List ActionOutcome) (readings : List SensorReading) (edges : List Nat)
      (runs : List Run),
    (quiet.submit (.process (motionInHall false))).Steps Backend.obliging log activity ∧
      outcomes.map (fun o => (o.ruleId, o.skipped)) = [("on", true), ("off", false)] ∧
      Snapshot.readings (motionInHall false) = .ok readings ∧
      edges = quiet.engine.book.events.changed readings activity.engine.book.events ∧
      activity.engine.book.Reported (activity.engine.book.told edges) runs outcomes := by
  have run : ((home.submit (.process (motionInHall true))).follow Backend.obliging
        [0, 0, 1, 1, 1, 1, 1, 0]).bind (fun first =>
      ((first.2.submit (.process (motionInHall false))).follow Backend.obliging
        [2, 2, 3, 3, 3, 3, 3, 2]).map fun second =>
          (first.2.tasks.all isFinished,
            (second.2.dispatchResult? first.2.tasks.length).map fun result =>
              result.toOption.map (·.map fun o => (o.ruleId, o.skipped))))
      = some (true, some (some [("on", true), ("off", false)])) := by decide +kernel
  obtain ⟨⟨past, quiet⟩, first, run⟩ := Option.bind_eq_some_iff.1 run
  obtain ⟨⟨log, activity⟩, second, run⟩ := Option.map_eq_some_iff.1 run
  obtain ⟨isOver, ended⟩ := Prod.mk.inj run
  obtain ⟨result, returned, told⟩ := Option.map_eq_some_iff.1 ended
  cases result with
  | error e => cases told
  | ok outcomes =>
    have reached : Reached Backend.obliging _ past quiet :=
      ((((Reached.start rfl).submit _).submit _).submit _).steps (Steps.of_follow first)
    obtain ⟨readings, edges, runs, read, -, changed, -, -, -, reported, -⟩ :=
      reached.dispatch_edges (List.all_eq_true.1 isOver) (Steps.of_follow second) returned
    exact ⟨quiet, activity, log, outcomes, readings, edges, runs, Steps.of_follow second,
      Option.some.inj told, read, changed, reported⟩

end Activity

end HomeAutomation
