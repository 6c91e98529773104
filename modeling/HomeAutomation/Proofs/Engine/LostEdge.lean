/-
  HomeAutomation.Proofs.Engine.LostEdge

  When an event changes its state and nobody is told.  A dispatch that returns
  has told every action of every event whose state changed.  One that fails has
  told nobody, and what the readings before the failure did to events remains:
  an edge is lost exactly if a number too large for the events that watch it
  comes after a reading that changes the state of an event.
-/

import HomeAutomation.Proofs.Engine.EdgeDispatch

namespace HomeAutomation

variable {σ : Type}

/-- All actions of an event are told with it. -/
theorem RuleBook.mem_told {book : RuleBook} {events : List Nat} {id : Nat}
    {e : Event Nat} (hid : id ∈ events) (event : book.events.event? id = some e) :
    ∀ action ∈ e.actions, (e, action) ∈ book.told events := by
  intro action ha
  refine List.mem_flatMap.2 ⟨id, hid, ?_⟩
  simpa [event] using ha

namespace Activity

/-- A dispatch that started in a quiet activity has returned and told all actions of an event. -/
def Notified (quiet activity : Activity σ) (snapshot : Json) (id : Nat) : Prop :=
  ∃ outcomes told runs e,
    activity.tasks = quiet.tasks ++ .dispatch ⟨snapshot, .finished (.ok outcomes)⟩
      :: runs.map .run ∧
    activity.engine.book.Reported told runs outcomes ∧
    activity.engine.book.events.event? id = some e ∧ ∀ action ∈ e.actions, (e, action) ∈ told

/-- The readings of a snapshot stop at a number that is too large, after some event has changed. -/
def StopsAfterEdge (events : EventRegistry Nat) (snapshot : Json) : Prop :=
  ∃ before r after, Snapshot.readings snapshot = .ok (before ++ r :: after) ∧
    (∀ r' ∈ before, ¬ events.Blocks r') ∧ events.Blocks r ∧ events.flipped before ≠ []

section Solo

variable {quiet activity : Activity σ} {snapshot : Json} {log : List Contact}
  {outcomes : List ActionOutcome}

/-- A call that returns has told everybody. -/
theorem Solo.notified (solo : Solo quiet snapshot log activity) (sound : quiet.engine.book.Sound)
    (ended : activity.dispatchResult? quiet.tasks.length = some (.ok outcomes)) {id : Nat}
    (differs : quiet.engine.book.events.state? id ≠ activity.engine.book.events.state? id) :
    quiet.Notified activity snapshot id := by
  have indexed := sound.indexed
  obtain ⟨engine, events, slots, runs, observes, fanned, known⟩ := solo.returned ended
  obtain ⟨readings, hr, usable, rfl, rfl⟩ := Engine.observe_eq_ok sound observes
  have keys := Snapshot.nodup_keys_readings hr
  have hid : id ∈ quiet.engine.book.events.flipped readings := by
    rw [fanned.events] at differs
    rw [EventRegistry.flipped_eq_changed indexed keys]
    exact (EventRegistry.mem_changed_iff indexed id).2 differs
  obtain ⟨r, -, hmem⟩ := List.mem_flatMap.1 hid
  obtain ⟨-, e, event, -⟩ := indexed.exists_of_matching (List.mem_of_mem_filter hmem)
  have alike := quiet.engine.book.events.alike_observed readings
  obtain ⟨e', event', -, -⟩ := alike.symm.exists_event event
  have event'' : activity.engine.book.events.event? id = some e' := by
    rw [fanned.events]
    exact event'
  exact ⟨outcomes, _, runs, e', fanned.tasks,
    fanned.reported (Engine.sound_after sound readings) known, event'',
    RuleBook.mem_told hid event''⟩

/-- A call that returns has met no number that is too large. -/
theorem Solo.not_stopsAfterEdge (solo : Solo quiet snapshot log activity)
    (sound : quiet.engine.book.Sound)
    (ended : activity.dispatchResult? quiet.tasks.length = some (.ok outcomes)) :
    ¬ StopsAfterEdge quiet.engine.book.events snapshot := by
  rintro ⟨before, r, after, hr, usable, blocked, -⟩
  obtain ⟨engine, events, slots, runs, observes, -, -⟩ := solo.returned ended
  rw [Engine.observe_of_blocked sound hr usable blocked] at observes
  cases observes

/-- A call that fails has changed the state of an event exactly if the readings stop after it. -/
theorem Solo.exists_differs_iff (solo : Solo quiet snapshot log activity)
    (sound : quiet.engine.book.Sound) {e : DispatchError}
    (ended : activity.dispatchResult? quiet.tasks.length = some (.error e)) :
    (∃ id, quiet.engine.book.events.state? id ≠ activity.engine.book.events.state? id)
      ↔ StopsAfterEdge quiet.engine.book.events snapshot := by
  have indexed := sound.indexed
  obtain ⟨observes, -, -⟩ := solo.failed ended
  constructor
  · rintro ⟨id, differs⟩
    obtain same | ⟨before, r, after, hr, usable, blocked, same⟩ :=
      Engine.observe_eq_error sound observes
    · rw [same] at differs
      exact absurd rfl differs
    · rw [same] at differs
      have keys := Snapshot.nodup_keys_readings hr
      rw [List.map_append] at keys
      refine ⟨before, r, after, hr, usable, blocked, List.ne_nil_of_mem (a := id) ?_⟩
      rw [EventRegistry.flipped_eq_changed indexed (List.nodup_append.1 keys).1]
      exact (EventRegistry.mem_changed_iff indexed id).2 differs
  · rintro ⟨before, r, after, hr, usable, blocked, edge⟩
    have stopped := Engine.observe_of_blocked sound hr usable blocked
    have keys := Snapshot.nodup_keys_readings hr
    rw [List.map_append] at keys
    have same : activity.engine = quiet.engine.after before :=
      congrArg Prod.fst (observes.symm.trans stopped)
    obtain ⟨id, hid⟩ := List.exists_mem_of_ne_nil _ edge
    rw [EventRegistry.flipped_eq_changed indexed (List.nodup_append.1 keys).1] at hid
    refine ⟨id, ?_⟩
    rw [same]
    exact (EventRegistry.mem_changed_iff indexed id).1 hid

/-- A call that fails has told nobody. -/
theorem Solo.not_notified (solo : Solo quiet snapshot log activity) {e : DispatchError}
    (ended : activity.dispatchResult? quiet.tasks.length = some (.error e)) (id : Nat) :
    ¬ quiet.Notified activity snapshot id := by
  obtain ⟨-, -, tasks⟩ := solo.failed ended
  rintro ⟨outcomes, told, runs, e', tasks', -⟩
  simp [tasks] at tasks'

end Solo

/-- An edge is lost by a call, whether it returns or fails, exactly if the readings stop after
    it. -/
theorem Reached.edge_lost_iff {backend : Backend σ} {initial : Engine σ} {past log : List Contact}
    {quiet activity : Activity σ} {snapshot : Json}
    {result : Except DispatchError (List ActionOutcome)}
    (reached : Reached backend initial past quiet) (isOver : quiet.Quiet)
    (steps : (quiet.submit (.process snapshot)).Steps backend log activity)
    (ended : activity.dispatchResult? quiet.tasks.length = some result) :
    (∃ id, quiet.engine.book.events.state? id ≠ activity.engine.book.events.state? id ∧
        ¬ quiet.Notified activity snapshot id)
      ↔ StopsAfterEdge quiet.engine.book.events snapshot := by
  have sound := reached.sound
  have solo := reached.solo isOver steps
  cases result with
  | ok outcomes =>
    refine iff_of_false ?_ (solo.not_stopsAfterEdge sound ended)
    rintro ⟨id, differs, unnotified⟩
    exact unnotified (solo.notified sound ended differs)
  | error e =>
    rw [← solo.exists_differs_iff sound ended]
    exact exists_congr fun id => and_iff_left (solo.not_notified ended id)

/-- A home with a rule on the kitchen and a rule on the attic. -/
def warmHome : Activity Unit :=
  let engine : Engine Unit :=
    { directory := .ofRooms [⟨"kitchen", .null, [⟨"fan-1", .null, "fan", "kitchen"⟩]⟩]
      range := ⟨16, 30⟩
      outside := () }
  (({ engine } : Activity _).submit
    (.register "if temperature > 25 in kitchen then fan on" (some "kitchen"))).submit
      (.register "if temperature > 25 in attic then kitchen fan on" (some "attic"))

/-- A warm kitchen, and a number that no double can hold for the attic. -/
def brokenAttic : Json :=
  .object [("temp",
    .object [("kitchen", .integer 30), ("attic", .integer (.ofNat (Nat.pow 10 400)))])]

theorem reached_warmHome : ∃ initial, Reached Backend.obliging initial [] warmHome :=
  ⟨_, ((Reached.start rfl).submit _).submit _⟩

theorem quiet_warmHome : warmHome.Quiet := by
  intro task h
  simp [warmHome, submit, Request.task?] at h

theorem exists_steps_brokenAttic : ∃ (log : List Contact) (activity : Activity Unit)
      (e : DispatchError),
    (warmHome.submit (.process brokenAttic)).Steps Backend.obliging log activity ∧
      activity.dispatchResult? 0 = some (.error e) ∧
      warmHome.engine.book.events.state? 0 = some false ∧
      activity.engine.book.events.state? 0 = some true := by
  have run : ((warmHome.submit (.process brokenAttic)).follow Backend.obliging [0, 0]).map (fun f =>
        ((f.2.dispatchResult? 0).map (·.toBool), f.2.engine.book.events.state? 0))
      = some (some false, some true) := by decide +kernel
  obtain ⟨⟨log, activity⟩, followed, run⟩ := Option.map_eq_some_iff.1 run
  obtain ⟨ended, state⟩ := Prod.mk.inj run
  obtain ⟨result, returned, failed⟩ := Option.map_eq_some_iff.1 ended
  cases result with
  | ok outcomes => cases failed
  | error e =>
    exact ⟨log, activity, e, .of_follow followed, returned, by decide +kernel, state⟩

/-- The kitchen becomes warm, the call fails on the attic, and nobody is told. -/
theorem edge_lost_brokenAttic : ∃ (initial : Engine Unit) (log : List Contact)
      (activity : Activity Unit) (e : DispatchError),
    Reached Backend.obliging initial [] warmHome ∧ warmHome.Quiet ∧
      (warmHome.submit (.process brokenAttic)).Steps Backend.obliging log activity ∧
      activity.dispatchResult? warmHome.tasks.length = some (.error e) ∧
      warmHome.engine.book.events.state? 0 ≠ activity.engine.book.events.state? 0 ∧
      ¬ warmHome.Notified activity brokenAttic 0 := by
  obtain ⟨initial, reached⟩ := reached_warmHome
  obtain ⟨log, activity, e, steps, ended, before, after⟩ := exists_steps_brokenAttic
  refine ⟨initial, log, activity, e, reached, quiet_warmHome, steps, ended, ?_, ?_⟩
  · rw [before, after]
    decide
  · rintro ⟨outcomes, told, runs, e', tasks, -⟩
    simp [dispatchResult?, tasks, warmHome, submit, Request.task?] at ended

/-- The readings of such a snapshot stop after the edge of the kitchen. -/
theorem stopsAfterEdge_brokenAttic :
    StopsAfterEdge warmHome.engine.book.events brokenAttic := by
  obtain ⟨initial, reached⟩ := reached_warmHome
  obtain ⟨log, activity, e, steps, ended, before, after⟩ := exists_steps_brokenAttic
  refine (reached.edge_lost_iff quiet_warmHome steps ended).1 ⟨0, ?_, ?_⟩
  · rw [before, after]
    decide
  · rintro ⟨outcomes, told, runs, e', tasks, -⟩
    simp [dispatchResult?, tasks, warmHome, submit, Request.task?] at ended

end Activity

end HomeAutomation
