/-
  HomeAutomation.Proofs.Poller.Interleaving

  Ticks that overlap in any way.  `Polling.Steps` are the runs of a poller: at any
  time a tick of any room may begin, the reading of any tick end with whatever its
  sensor says, a tick whose dispatch has ended end too, and the engine be asked for
  something else or go on with one of its tasks.  What happens in the ticks is kept
  in a list of moments.  The rounds of the service are among these runs:
  `Engine.exists_steps_round`.
-/

import HomeAutomation.Poller.Polling
import HomeAutomation.Proofs.Engine.SingleDispatch

namespace HomeAutomation

variable {σ : Type}

-- ============================================================================
-- Moments
-- ============================================================================

/-- What happens in a tick, with the place of the tick and its room. -/
inductive PollMoment
  | began (tick : Nat) (room : String)
  | heard (tick : Nat) (room : String) (result : Except SensorError Json)
  | left (tick : Nat) (room : String)

namespace PollMoment

/-- The tick that a moment belongs to. -/
def tick : PollMoment → Nat
  | began tick _ => tick
  | heard tick _ _ => tick
  | left tick _ => tick

/-- The room of the tick. -/
def room : PollMoment → String
  | began _ room => room
  | heard _ room _ => room
  | left _ room => room

/-- Whether a tick of a room begins. -/
def begins (room : String) : PollMoment → Bool
  | began _ other => decide (other = room)
  | _ => false

/-- What reading the sensor of a room has given. -/
def result? (room : String) : PollMoment → Option (Except SensorError Json)
  | heard _ other result => if other = room then some result else none
  | _ => none

/-- How many ticks of a room have begun. -/
def begun (room : String) (moments : List PollMoment) : Nat := moments.countP (begins room)

/-- What the readings of a room have given, in the order in which they ended. -/
def results (room : String) (moments : List PollMoment) : List (Except SensorError Json) :=
  moments.filterMap (result? room)

theorem begun_append (room : String) (moments more : List PollMoment) :
    begun room (moments ++ more) = begun room moments + begun room more :=
  List.countP_append

theorem begins_of_room_ne {moment : PollMoment} {room : String} (h : moment.room ≠ room) :
    moment.begins room = false := by
  cases moment with
  | began => exact decide_eq_false h
  | heard | left => rfl

theorem result?_of_room_ne {moment : PollMoment} {room : String} (h : moment.room ≠ room) :
    moment.result? room = none := by
  cases moment with
  | heard => exact if_neg h
  | began | left => rfl

end PollMoment

-- ============================================================================
-- Runs
-- ============================================================================

/-- What fails in a tick goes no further. -/
theorem Tick.close_eq (attempt : Except TickError Unit) : Tick.close attempt = .ended (.ok ()) := by
  cases attempt <;> rfl

namespace Polling

/-- What may happen next, with the moment that it is for a tick.  The sensor of a tick may have
    changed since the tick began; what counts is the sensor when the reading ends. -/
inductive Step (world : World σ) (polling : Polling σ) : List PollMoment → Polling σ → Prop
  | begin (room : String) :
      Step world polling [.began polling.ticks.length room] (polling.begin room)
  | hear {place : Nat} (sensor : RoomSensor)
      (tick : polling.ticks[place]? = some ⟨sensor.room, .reading⟩) :
      Step world polling [.heard place sensor.room (polling.reading world sensor)]
        (polling.hear world place sensor)
  | leave {place task : Nat} {room : String} {result : Except DispatchError (List ActionOutcome)}
      (tick : polling.ticks[place]? = some ⟨room, .dispatching task⟩)
      (ended : polling.activity.dispatchResult? task = some result) :
      Step world polling [.left place room] (polling.leave place room result)
  | ask (request : Activity.Request) :
      Step world polling [] { polling with activity := polling.activity.submit request }
  | advance {self : Nat} {next : Activity σ}
      (step : polling.activity.Step world.backend self next) :
      Step world polling [] { polling with activity := next }

/-- Any number of steps, with the moments on the way. -/
inductive Steps (world : World σ) (polling : Polling σ) : List PollMoment → Polling σ → Prop
  | refl : Steps world polling [] polling
  | tail {moments more : List PollMoment} {middle next : Polling σ}
      (steps : Steps world polling moments middle) (step : middle.Step world more next) :
      Steps world polling (moments ++ more) next

theorem Steps.trans {world : World σ} {polling middle next : Polling σ}
    {moments more : List PollMoment} (steps : polling.Steps world moments middle)
    (further : middle.Steps world more next) : polling.Steps world (moments ++ more) next := by
  induction further with
  | refl => simpa using steps
  | tail _ step ih => simpa using ih.tail step

variable {world : World σ} {polling next : Polling σ} {moments : List PollMoment}

theorem hear_of_error {sensor : RoomSensor} {place : Nat} {e : SensorError}
    (unread : polling.reading world sensor = .error e) :
    polling.hear world place sensor
      = (polling.note world sensor).enter place sensor.room (Tick.close (.error (.unread e))) := by
  unfold hear
  rw [unread]

theorem hear_of_ok {sensor : RoomSensor} {place : Nat} {snapshot : Json}
    (read : polling.reading world sensor = .ok snapshot) :
    polling.hear world place sensor
      = ((polling.note world sensor).dispatch snapshot).enter place sensor.room
          (.dispatching polling.activity.tasks.length) := by
  unfold hear
  rw [read]
  rfl

theorem live_hear (polling : Polling σ) (world : World σ) (place : Nat) (sensor : RoomSensor) :
    (polling.hear world place sensor).live = polling.live.finish sensor.room
      ((polling.reading world sensor).mapError SensorError.message) := by
  cases heard : polling.reading world sensor with
  | error e =>
    rw [hear_of_error heard, ← heard]
    rfl
  | ok snapshot =>
    rw [hear_of_ok heard, ← heard]
    rfl

theorem activity_hear (polling : Polling σ) (world : World σ) (place : Nat) (sensor : RoomSensor) :
    (polling.hear world place sensor).activity = { polling.activity with
      engine := { polling.activity.engine with
        outside := (sensor.read world.fetch polling.activity.engine.outside).1 }
      tasks := polling.activity.tasks ++ (polling.reading world sensor).toOption.toList.map
        fun snapshot => .dispatch { snapshot } } := by
  cases heard : polling.reading world sensor with
  | error e =>
    rw [hear_of_error heard]
    simp [Except.toOption, enter, note]
  | ok snapshot =>
    rw [hear_of_ok heard]
    rfl

theorem getElem?_begin_of_ne (polling : Polling σ) (room : String) {place : Nat}
    (apart : place ≠ polling.ticks.length) :
    (polling.begin room).ticks[place]? = polling.ticks[place]? := by
  rcases Nat.lt_or_gt_of_ne apart with before | beyond
  · exact List.getElem?_append_left before
  · rw [List.getElem?_eq_none (Nat.le_of_lt beyond)]
    apply List.getElem?_eq_none
    rw [begin, List.length_append, List.length_singleton]
    omega

theorem getElem?_enter_self {place : Nat} {tick : Tick}
    (found : polling.ticks[place]? = some tick) (room : String) (phase : TickPhase) :
    (polling.enter place room phase).ticks[place]? = some ⟨room, phase⟩ :=
  List.getElem?_set_self (List.getElem?_eq_some_iff.1 found).1

theorem getElem?_enter_of_ne (polling : Polling σ) (room : String) (phase : TickPhase)
    {place other : Nat} (apart : other ≠ place) :
    (polling.enter place room phase).ticks[other]? = polling.ticks[other]? :=
  List.getElem?_set_ne apart.symm

-- ============================================================================
-- Rounds
-- ============================================================================

/-- The engine goes on with its tasks in any order. -/
theorem Steps.of_activity {world : World σ} {activity after : Activity σ} {log : List Contact}
    (advances : activity.Steps world.backend log after) (live : Live) (ticks : List Tick) :
    Steps world ⟨activity, live, ticks⟩ [] ⟨after, live, ticks⟩ := by
  induction advances with
  | refl => exact .refl
  | tail _ step ih => exact ih.tail (.advance step)

/-- The engine goes on with its tasks in turn. -/
theorem Steps.schedule (world : World σ) (activity : Activity σ) (queue : List Nat) (live : Live)
    (ticks : List Tick) :
    Steps world ⟨activity, live, ticks⟩ []
      ⟨Activity.schedule world.backend activity queue, live, ticks⟩ := by
  fun_induction Activity.schedule world.backend activity queue with
  | case1 activity => exact .refl
  | case2 activity self rest stuck ih => exact ih
  | case3 activity self rest step advanced closer ih =>
    have advances : activity.Step world.backend self step.next := by
      rw [Activity.Step, advanced]
      rfl
    have first : Steps world ⟨activity, live, ticks⟩ [] ⟨step.next, live, ticks⟩ :=
      Steps.refl.tail (.advance advances)
    exact first.trans ih

/-- A tick that begins and whose sensor is read at once. -/
theorem exists_steps_poll (polling : Polling σ) (world : World σ) (sensor : RoomSensor) :
    ∃ moments next, polling.Steps world moments next ∧
      (∀ room, PollMoment.begun room moments = if sensor.room = room then 1 else 0) ∧
      next.live = (polling.activity.engine.poll world polling.live sensor).2.1 ∧
      next.activity = { polling.activity with
        engine := (polling.activity.engine.poll world polling.live sensor).1
        tasks := polling.activity.tasks ++
          (polling.activity.engine.poll world polling.live sensor).2.2.toList.map
            fun snapshot => .dispatch { snapshot } } := by
  have begun : (polling.begin sensor.room).ticks[polling.ticks.length]?
      = some ⟨sensor.room, .reading⟩ := List.getElem?_concat_length
  refine ⟨_, _, (Steps.refl.tail (.begin sensor.room)).tail (.hear sensor begun), ?_, ?_, ?_⟩
  · intro room
    simp [PollMoment.begun, PollMoment.begins, List.countP_cons]
  · rw [live_hear]
    rfl
  · rw [activity_hear]
    rfl

/-- Sensors that are read one after the other. -/
theorem exists_steps_pollAll (world : World σ) (sensors : List RoomSensor) (polling : Polling σ) :
    ∃ moments next, polling.Steps world moments next ∧
      (∀ room, PollMoment.begun room moments
        = sensors.countP fun sensor => decide (sensor.room = room)) ∧
      next.live = (Engine.pollAll world polling.activity.engine polling.live sensors).2.1 ∧
      next.activity = { polling.activity with
        engine := (Engine.pollAll world polling.activity.engine polling.live sensors).1
        tasks := polling.activity.tasks ++
          (Engine.pollAll world polling.activity.engine polling.live sensors).2.2.map
            fun snapshot => .dispatch { snapshot } } := by
  induction sensors generalizing polling with
  | nil => exact ⟨[], polling, .refl, fun _ => rfl, rfl, by simp [Engine.pollAll]⟩
  | cons sensor rest ih =>
    obtain ⟨first, middle, steps, begun, live, activity⟩ := exists_steps_poll polling world sensor
    obtain ⟨more, next, further, begunNext, liveNext, activityNext⟩ := ih middle
    refine ⟨first ++ more, next, steps.trans further, ?_, ?_, ?_⟩
    · intro room
      rw [PollMoment.begun_append, begun, begunNext, List.countP_cons, Nat.add_comm]
      simp
    · rw [liveNext, activity, live]
      rfl
    · rw [activityNext, activity, live]
      simp [Engine.pollAll]

end Polling

/-- A round, in which all rooms tick at once, is one of the ways in which the ticks may go. -/
theorem Engine.exists_steps_round (engine : Engine σ) (world : World σ) (live : Live)
    (sensors : List RoomSensor) :
    ∃ moments next, Polling.Steps world { activity := { engine }, live } moments next ∧
      (∀ room, PollMoment.begun room moments
        = sensors.countP fun sensor => decide (sensor.room = room)) ∧
      (next.activity.engine, next.live) = engine.round world live sensors := by
  obtain ⟨moments, read, steps, begun, live', activity⟩ :=
    Polling.exists_steps_pollAll world sensors { activity := { engine }, live }
  have turns := Polling.Steps.schedule world read.activity
    (List.range read.activity.tasks.length) read.live read.ticks
  have round := steps.trans turns
  rw [List.append_nil] at round
  refine ⟨moments, _, round, begun, ?_⟩
  rw [activity, live']
  rfl

end HomeAutomation
