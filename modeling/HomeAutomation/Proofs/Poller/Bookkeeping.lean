/-
  HomeAutomation.Proofs.Poller.Bookkeeping

  What a poller knows of its rooms.  However the ticks overlap, what is known of a
  room is what the moments of its ticks tell, in whichever order they came
  (`Live.Tells`); a tick goes through its moments in one of few ways
  (`Polling.Traced`), none of which fails; and one whose sensor could not be read
  has changed nothing else (`Polling.Spares`): `Polling.Steps.bookkeeping`.
-/

import Mathlib.Data.List.Induction
import HomeAutomation.Proofs.Engine.LostEdge
import HomeAutomation.Proofs.Poller.Interleaving
import HomeAutomation.Service.Installation

namespace HomeAutomation

variable {σ : Type}

-- ============================================================================
-- What is known of a room
-- ============================================================================

namespace Live

theorem status_modify (live : Live) (room other : String) (f : RoomStatus → RoomStatus) :
    (live.modify room f).status other
      = if other = room then f (live.status room) else live.status other := by
  unfold status modify
  split
  · rename_i same
    rw [same, Table.get?_set_self]
    rfl
  · rename_i apart
    rw [Table.get?_set_ne _ _ apart]

theorem has_modify (live : Live) (room other : String) (f : RoomStatus → RoomStatus)
    (known : Table.has live other = true) : Table.has (live.modify room f) other = true := by
  unfold Table.has modify at *
  by_cases same : other = room
  · rw [same, Table.get?_set_self]
    rfl
  · rw [Table.get?_set_ne _ _ same]
    exact known

theorem has_modify_self (live : Live) (room : String) (f : RoomStatus → RoomStatus) :
    Table.has (live.modify room f) room = true := by
  rw [Table.has, modify, Table.get?_set_self]
  rfl

theorem ofRooms_concat (rooms : List String) (room : String) :
    ofRooms (rooms ++ [room]) = (ofRooms rooms).modify room fun _ => {} := by
  simp only [ofRooms, List.foldl_append]
  rfl

theorem status_ofRooms (rooms : List String) (room : String) :
    (ofRooms rooms).status room = {} := by
  induction rooms using List.reverseRecOn with
  | nil => rfl
  | append_singleton rooms last ih =>
    rw [ofRooms_concat, status_modify, ih]
    split <;> rfl

theorem has_ofRooms {rooms : List String} {room : String} (h : room ∈ rooms) :
    Table.has (ofRooms rooms) room = true := by
  induction rooms using List.reverseRecOn with
  | nil => cases h
  | append_singleton rooms last ih =>
    rw [ofRooms_concat]
    rcases List.mem_append.1 h with h | h
    · exact has_modify _ _ _ _ (ih h)
    · obtain rfl := List.mem_singleton.1 h
      exact has_modify_self _ _ _

theorem has_begin (live : Live) (room other : String) (known : Table.has live other = true) :
    Table.has (live.begin room) other = true :=
  has_modify _ _ _ _ known

theorem has_begin_self (live : Live) (room : String) : Table.has (live.begin room) room = true :=
  has_modify_self _ _ _

theorem has_finish (live : Live) (room other : String) (result : Except String Json)
    (known : Table.has live other = true) : Table.has (live.finish room result) other = true := by
  unfold finish
  split <;> exact has_modify _ _ _ _ known

theorem get?_begin_of_ne (live : Live) {room other : String} (apart : other ≠ room) :
    Table.get? (live.begin room) other = Table.get? live other :=
  Table.get?_set_ne _ _ apart

theorem get?_finish_of_ne (live : Live) {room other : String} (result : Except String Json)
    (apart : other ≠ room) :
    Table.get? (live.finish room result) other = Table.get? live other := by
  cases result <;> exact Table.get?_set_ne _ _ apart

end Live

namespace RoomStatus

/-- What is known of a room is what the moments of polling tell. -/
structure Tells (room : String) (moments : List PollMoment) (status : RoomStatus) : Prop where
  ticks : status.ticks = PollMoment.begun room moments
  failures : status.failures = (PollMoment.results room moments).countP (!·.isOk)
  lastSnapshot : status.lastSnapshot
    = ((PollMoment.results room moments).filterMap Except.toOption).getLast?
  lastError : status.lastError = (PollMoment.results room moments).getLast?.bind fun
    | .ok _ => none
    | .error e => some e.message

namespace Tells

variable {room : String} {moments : List PollMoment} {status : RoomStatus}

/-- There is an error only if the reading that ended last failed. -/
theorem lastError_eq_none_iff (tells : status.Tells room moments) :
    status.lastError = none ↔
      (PollMoment.results room moments).getLast? = none ∨
        ∃ snapshot, (PollMoment.results room moments).getLast? = some (.ok snapshot) := by
  rw [tells.lastError]
  rcases (PollMoment.results room moments).getLast? with _ | (e | snapshot) <;> simp

/-- While no reading of a room ends, only the number of its ticks may change. -/
theorem unheard (tells : status.Tells room moments) {later : List PollMoment} {ticks : Nat}
    (begun : ticks = PollMoment.begun room later)
    (results : PollMoment.results room later = PollMoment.results room moments) :
    Tells room later { status with ticks } := by
  constructor
  · exact begun
  · rw [results]
    exact tells.failures
  · rw [results]
    exact tells.lastSnapshot
  · rw [results]
    exact tells.lastError

/-- What happens in a room tells nothing of others. -/
theorem pass (tells : status.Tells room moments) {moment : PollMoment}
    (silent : moment.begins room = false) (mute : moment.result? room = none) :
    status.Tells room (moments ++ [moment]) := by
  have begun : status.ticks = PollMoment.begun room (moments ++ [moment]) := by
    rw [tells.ticks]
    simp [PollMoment.begun, silent]
  exact tells.unheard begun (by simp [PollMoment.results, mute])

theorem begin (tells : status.Tells room moments) (place : Nat) :
    Tells room (moments ++ [.began place room]) { status with ticks := status.ticks + 1 } := by
  apply tells.unheard
  · simp [PollMoment.begun, PollMoment.begins, tells.ticks]
  · simp [PollMoment.results, PollMoment.result?]

theorem results_heard (room : String) (moments : List PollMoment) (place : Nat)
    (result : Except SensorError Json) :
    PollMoment.results room (moments ++ [.heard place room result])
      = PollMoment.results room moments ++ [result] := by
  simp [PollMoment.results, PollMoment.result?]

theorem succeed (tells : status.Tells room moments) (place : Nat) (snapshot : Json) :
    Tells room (moments ++ [.heard place room (.ok snapshot)])
      { status with lastSnapshot := some snapshot, lastError := none } := by
  constructor
  · simp [PollMoment.begun, PollMoment.begins, tells.ticks]
  · rw [results_heard, List.countP_append, ← tells.failures]
    rfl
  · rw [results_heard]
    simp [Except.toOption]
  · rw [results_heard]
    simp

theorem fail (tells : status.Tells room moments) (place : Nat) (e : SensorError) :
    Tells room (moments ++ [.heard place room (.error e)])
      { status with lastError := some e.message, failures := status.failures + 1 } := by
  constructor
  · simp [PollMoment.begun, PollMoment.begins, tells.ticks]
  · rw [results_heard, List.countP_append, ← tells.failures]
    rfl
  · rw [results_heard]
    simp [Except.toOption, tells.lastSnapshot]
  · rw [results_heard]
    simp

end Tells

end RoomStatus

namespace Live

/-- What is known of all rooms is what the moments of polling tell. -/
def Tells (live : Live) (moments : List PollMoment) : Prop :=
  ∀ room, (live.status room).Tells room moments

namespace Tells

variable {live : Live} {moments : List PollMoment}

theorem ofRooms (rooms : List String) : (Live.ofRooms rooms).Tells [] := by
  intro room
  rw [status_ofRooms]
  exact ⟨rfl, rfl, rfl, rfl⟩

/-- A room changes as a moment of it tells, and the others do not. -/
theorem modify (tells : live.Tells moments) (moment : PollMoment) {f : RoomStatus → RoomStatus}
    (own : (f (live.status moment.room)).Tells moment.room (moments ++ [moment])) :
    (live.modify moment.room f).Tells (moments ++ [moment]) := by
  intro room
  rw [status_modify]
  split
  · rename_i same
    exact same ▸ own
  · rename_i apart
    have other : moment.room ≠ room := fun same => apart same.symm
    exact (tells room).pass (moment.begins_of_room_ne other) (moment.result?_of_room_ne other)

theorem begin (tells : live.Tells moments) (place : Nat) (room : String) :
    (live.begin room).Tells (moments ++ [.began place room]) :=
  tells.modify (.began place room) ((tells room).begin place)

theorem finish (tells : live.Tells moments) (place : Nat) (room : String)
    (result : Except SensorError Json) :
    (live.finish room (result.mapError SensorError.message)).Tells
      (moments ++ [.heard place room result]) := by
  cases result with
  | ok snapshot =>
    show (live.modify room fun status =>
      { status with lastSnapshot := some snapshot, lastError := none }).Tells _
    exact tells.modify (.heard place room (.ok snapshot)) ((tells room).succeed place snapshot)
  | error e =>
    show (live.modify room fun status =>
      { status with lastError := some e.message, failures := status.failures + 1 }).Tells _
    exact tells.modify (.heard place room (.error e)) ((tells room).fail place e)

theorem leave (tells : live.Tells moments) (place : Nat) (room : String) :
    live.Tells (moments ++ [.left place room]) :=
  fun other => (tells other).pass rfl rfl

end Tells

end Live

namespace Polling

variable {world : World σ} {polling next : Polling σ} {moments : List PollMoment}

theorem Step.tells (step : polling.Step world moments next) {before : List PollMoment}
    (tells : polling.live.Tells before) : next.live.Tells (before ++ moments) := by
  cases step with
  | begin room => exact tells.begin _ room
  | @hear place sensor tick =>
    rw [live_hear]
    exact tells.finish place sensor.room _
  | @leave place task room result tick ended => exact tells.leave place room
  | ask | advance =>
    rw [List.append_nil]
    exact tells

theorem Steps.tells (steps : polling.Steps world moments next) {before : List PollMoment}
    (tells : polling.live.Tells before) : next.live.Tells (before ++ moments) := by
  induction steps with
  | refl =>
    rw [List.append_nil]
    exact tells
  | tail _ step ih =>
    rw [← List.append_assoc]
    exact step.tells ih

end Polling

/-- Rounds add to what is known what their ticks tell, one of every sensor in every round. -/
theorem Engine.exists_tells_rounds (engine : Engine σ) (world : World σ) {live : Live}
    {before : List PollMoment} (tells : live.Tells before) (sensors : List RoomSensor)
    (count : Nat) :
    ∃ moments, (engine.rounds world live sensors count).2.Tells (before ++ moments) ∧
      ∀ room, PollMoment.begun room moments
        = count * sensors.countP fun sensor => decide (sensor.room = room) := by
  induction count generalizing engine live before with
  | zero =>
    refine ⟨[], ?_, fun room => (Nat.zero_mul _).symm⟩
    rw [List.append_nil]
    exact tells
  | succ count ih =>
    obtain ⟨first, next, steps, begun, round⟩ := engine.exists_steps_round world live sensors
    obtain ⟨more, told, begunMore⟩ := ih next.activity.engine (steps.tells tells)
    refine ⟨first ++ more, ?_, fun room => ?_⟩
    · rw [rounds, ← round, ← List.append_assoc]
      exact told
    · rw [PollMoment.begun_append, begun, begunMore, Nat.succ_mul, Nat.add_comm]

/-- After a number of rounds every sensor of a room has ticked that often. -/
theorem Engine.ticks_rounds (engine : Engine σ) (world : World σ) (rooms : List String)
    (sensors : List RoomSensor) (count : Nat) (room : String) :
    ((engine.rounds world (.ofRooms rooms) sensors count).2.status room).ticks
      = count * sensors.countP fun sensor => decide (sensor.room = room) := by
  obtain ⟨moments, tells, begun⟩ :=
    engine.exists_tells_rounds world (.ofRooms rooms) sensors count
  rw [(tells room).ticks, List.nil_append, begun]

-- ============================================================================
-- What has happened to a tick
-- ============================================================================

namespace Activity

/-- A task dispatches a snapshot, or has dispatched it. -/
def Dispatches (activity : Activity σ) (task : Nat) (snapshot : Json) : Prop :=
  ∃ phase, activity.tasks[task]? = some (.dispatch ⟨snapshot, phase⟩)

theorem Dispatches.of_append {activity next : Activity σ} {task : Nat} {snapshot : Json}
    (dispatches : activity.Dispatches task snapshot) {more : List Task}
    (tasks : next.tasks = activity.tasks ++ more) : next.Dispatches task snapshot := by
  obtain ⟨phase, found⟩ := dispatches
  refine ⟨phase, ?_⟩
  rw [tasks, List.getElem?_append_left (List.getElem?_eq_some_iff.1 found).1]
  exact found

/-- A dispatch goes on with its snapshot. -/
theorem Dispatches.advance {backend : Backend σ} {activity next : Activity σ} {task self : Nat}
    {snapshot : Json} (dispatches : activity.Dispatches task snapshot)
    (advances : activity.Advances backend self next) : next.Dispatches task snapshot := by
  obtain ⟨phase, found⟩ := dispatches
  by_cases own : task = self
  · subst own
    -- a step of the dispatch itself puts a later phase in its place
    have put {other : Json} {before after : DispatchPhase}
        (held : activity.tasks[task]? = some (.dispatch ⟨other, before⟩)) :
        (activity.tasks.set task (.dispatch ⟨other, after⟩))[task]?
          = some (.dispatch ⟨snapshot, after⟩) := by
      rw [found] at held
      cases held
      rw [getElem?_set_task found, if_pos rfl]
    cases advances with
    | pause held | run held =>
      rw [found] at held
      cases held
    | queue held => exact ⟨_, put held⟩
    | refuse held => exact ⟨_, put held⟩
    | gather held => exact ⟨_, put held⟩
    | @spread snapshot engine events slots runs held =>
      refine ⟨.gathering slots, ?_⟩
      rw [List.getElem?_append_left (List.getElem?_eq_some_iff.1 (put held)).1]
      exact put held
  · exact ⟨phase, advances.others found own⟩

end Activity

namespace Polling

/-- What has happened to a tick by the time that it has come so far; nothing if it has not begun. -/
inductive Traced (activity : Activity σ) (place : Nat) : Option Tick → List PollMoment → Prop
  | unbegun : Traced activity place none []
  | reading (room : String) :
      Traced activity place (some ⟨room, .reading⟩) [.began place room]
  | unread (room : String) (e : SensorError) :
      Traced activity place (some ⟨room, .ended (.ok ())⟩)
        [.began place room, .heard place room (.error e)]
  | dispatching {task : Nat} (room : String) {snapshot : Json}
      (dispatches : activity.Dispatches task snapshot) :
      Traced activity place (some ⟨room, .dispatching task⟩)
        [.began place room, .heard place room (.ok snapshot)]
  | left (room : String) (snapshot : Json) :
      Traced activity place (some ⟨room, .ended (.ok ())⟩)
        [.began place room, .heard place room (.ok snapshot), .left place room]

namespace Traced

variable {activity after : Activity σ} {place : Nat} {tick : Option Tick}
  {trace : List PollMoment}

theorem mono (traced : Traced activity place tick trace)
    (keeps : ∀ task snapshot, activity.Dispatches task snapshot → after.Dispatches task snapshot) :
    Traced after place tick trace := by
  cases traced with
  | unbegun => exact .unbegun
  | reading room => exact .reading room
  | unread room e => exact .unread room e
  | dispatching room dispatches => exact .dispatching room (keeps _ _ dispatches)
  | left room snapshot => exact .left room snapshot

theorem eq_nil (traced : Traced activity place none trace) : trace = [] := by
  cases traced
  rfl

theorem eq_began {room : String} (traced : Traced activity place (some ⟨room, .reading⟩) trace) :
    trace = [.began place room] := by
  cases traced
  rfl

theorem exists_snapshot {room : String} {task : Nat}
    (traced : Traced activity place (some ⟨room, .dispatching task⟩) trace) :
    ∃ snapshot, activity.Dispatches task snapshot ∧
      trace = [.began place room, .heard place room (.ok snapshot)] := by
  cases traced with
  | dispatching room dispatches => exact ⟨_, dispatches, rfl⟩

theorem result_eq {room : String} {result : Except TickError Unit}
    (traced : Traced activity place (some ⟨room, .ended result⟩) trace) : result = .ok () := by
  cases traced <;> rfl

/-- A tick whose sensor could not be read does nothing else. -/
theorem eq_of_unread {room : String} {e : SensorError} (traced : Traced activity place tick trace)
    (unread : .heard place room (.error e) ∈ trace) :
    trace = [.began place room, .heard place room (.error e)] := by
  cases traced with
  | unread => simpa [eq_comm] using unread
  | unbegun | reading | dispatching | left => simp at unread

end Traced

/-- Every tick has come as far as its moments say. -/
def Accounted (polling : Polling σ) (moments : List PollMoment) : Prop :=
  ∀ place, Traced polling.activity place polling.ticks[place]?
    (moments.filter fun moment => decide (moment.tick = place))

theorem accounted_idle (activity : Activity σ) (rooms : List String) :
    (idle activity rooms).Accounted [] :=
  fun _ => .unbegun

namespace Accounted

variable {polling next : Polling σ} {moments : List PollMoment}

/-- A moment of a tick leaves the other ticks as they are. -/
theorem moment (accounted : polling.Accounted moments) (moment : PollMoment)
    (keeps : ∀ task snapshot, polling.activity.Dispatches task snapshot →
      next.activity.Dispatches task snapshot)
    (others : ∀ place, place ≠ moment.tick → next.ticks[place]? = polling.ticks[place]?)
    (own : ∀ trace, Traced polling.activity moment.tick polling.ticks[moment.tick]? trace →
      Traced next.activity moment.tick next.ticks[moment.tick]? (trace ++ [moment])) :
    next.Accounted (moments ++ [moment]) := by
  intro place
  rw [List.filter_append]
  by_cases same : moment.tick = place
  · subst same
    rw [List.filter_cons, if_pos (decide_eq_true rfl), List.filter_nil]
    exact own _ (accounted _)
  · rw [List.filter_cons, if_neg (by simpa using same), List.filter_nil, List.append_nil,
      others place (Ne.symm same)]
    exact (accounted place).mono keeps

theorem quiet (accounted : polling.Accounted moments) {activity : Activity σ}
    (keeps : ∀ task snapshot, polling.activity.Dispatches task snapshot →
      activity.Dispatches task snapshot) :
    Accounted { polling with activity } moments :=
  fun place => (accounted place).mono keeps

theorem begin (accounted : polling.Accounted moments) (room : String) :
    (polling.begin room).Accounted (moments ++ [.began polling.ticks.length room]) := by
  apply accounted.moment (.began polling.ticks.length room)
  · exact fun _ _ dispatches => dispatches
  · exact fun place apart => getElem?_begin_of_ne polling room apart
  · intro trace traced
    have absent : polling.ticks[polling.ticks.length]? = none :=
      List.getElem?_eq_none (Nat.le_refl _)
    have present : (polling.begin room).ticks[polling.ticks.length]? = some ⟨room, .reading⟩ :=
      List.getElem?_concat_length
    rw [PollMoment.tick, absent] at traced
    rw [PollMoment.tick, present, traced.eq_nil]
    exact .reading room

/-- A tick whose sensor could not be read is over; one whose sensor has been read dispatches the
    snapshot. -/
theorem hear (accounted : polling.Accounted moments) (world : World σ) {place : Nat}
    {sensor : RoomSensor} (tick : polling.ticks[place]? = some ⟨sensor.room, .reading⟩) :
    (polling.hear world place sensor).Accounted
      (moments ++ [.heard place sensor.room (polling.reading world sensor)]) := by
  cases heard : polling.reading world sensor with
  | error e =>
    rw [hear_of_error heard]
    apply accounted.moment (.heard place sensor.room (.error e))
    · exact fun _ _ dispatches => dispatches
    · exact fun other apart => getElem?_enter_of_ne _ _ _ apart
    · intro trace traced
      have reading : (polling.note world sensor).ticks[place]? = some ⟨sensor.room, .reading⟩ :=
        tick
      rw [PollMoment.tick, tick] at traced
      rw [PollMoment.tick, getElem?_enter_self reading, Tick.close_eq, traced.eq_began]
      exact .unread sensor.room e
  | ok snapshot =>
    rw [hear_of_ok heard]
    apply accounted.moment (.heard place sensor.room (.ok snapshot))
    · exact fun _ _ dispatches => dispatches.of_append rfl
    · exact fun other apart => getElem?_enter_of_ne _ _ _ apart
    · intro trace traced
      have reading : ((polling.note world sensor).dispatch snapshot).ticks[place]?
          = some ⟨sensor.room, .reading⟩ := tick
      rw [PollMoment.tick, tick] at traced
      rw [PollMoment.tick, getElem?_enter_self reading, traced.eq_began]
      exact .dispatching sensor.room ⟨.ready, List.getElem?_concat_length⟩

theorem leave (accounted : polling.Accounted moments) {place task : Nat} {room : String}
    (tick : polling.ticks[place]? = some ⟨room, .dispatching task⟩)
    (result : Except DispatchError (List ActionOutcome)) :
    (polling.leave place room result).Accounted (moments ++ [.left place room]) := by
  apply accounted.moment (.left place room)
  · exact fun _ _ dispatches => dispatches
  · exact fun other apart => getElem?_enter_of_ne _ _ _ apart
  · intro trace traced
    rw [PollMoment.tick, tick] at traced
    obtain ⟨snapshot, -, rfl⟩ := traced.exists_snapshot
    rw [PollMoment.tick, Polling.leave, getElem?_enter_self tick, Tick.close_eq]
    exact .left room snapshot

end Accounted

variable {world : World σ} {polling next : Polling σ} {more moments : List PollMoment}
  {activity : Activity σ} {rooms : List String}

theorem Step.accounted (step : polling.Step world more next)
    (accounted : polling.Accounted moments) : next.Accounted (moments ++ more) := by
  cases step with
  | begin room => exact accounted.begin room
  | hear sensor tick => exact accounted.hear world tick
  | leave tick ended => exact accounted.leave tick _
  | ask request =>
    rw [List.append_nil]
    exact accounted.quiet fun _ _ dispatches => dispatches.of_append rfl
  | advance step =>
    rw [List.append_nil]
    exact accounted.quiet fun _ _ dispatches => dispatches.advance step.advances

theorem Steps.accounted (steps : (idle activity rooms).Steps world moments polling) :
    polling.Accounted moments := by
  induction steps with
  | refl => exact accounted_idle activity rooms
  | tail _ step ih => exact step.accounted ih

/-- What a tick dispatches is what it has read. -/
theorem Steps.exists_dispatches (steps : (idle activity rooms).Steps world moments polling)
    {place task : Nat} {room : String}
    (tick : polling.ticks[place]? = some ⟨room, .dispatching task⟩) :
    ∃ snapshot, .heard place room (.ok snapshot) ∈ moments ∧
      polling.activity.Dispatches task snapshot := by
  have traced := steps.accounted place
  rw [tick] at traced
  obtain ⟨snapshot, dispatches, trace⟩ := traced.exists_snapshot
  have heard : PollMoment.heard place room (.ok snapshot)
      ∈ moments.filter fun moment => decide (moment.tick = place) := by
    rw [trace]
    exact List.mem_cons_of_mem _ List.mem_cons_self
  exact ⟨snapshot, (List.mem_filter.1 heard).1, dispatches⟩

/-- The moments of a tick whose sensor could not be read. -/
theorem Steps.trace_eq_of_unread (steps : (idle activity rooms).Steps world moments polling)
    {place : Nat} {room : String} {e : SensorError}
    (unread : .heard place room (.error e) ∈ moments) :
    moments.filter (fun moment => decide (moment.tick = place))
      = [.began place room, .heard place room (.error e)] :=
  (steps.accounted place).eq_of_unread (List.mem_filter.2 ⟨unread, decide_eq_true rfl⟩)

-- ============================================================================
-- Entries
-- ============================================================================

theorem Step.known (step : polling.Step world more next) {room : String}
    (known : Table.has polling.live room = true) : Table.has next.live room = true := by
  cases step with
  | begin other => exact polling.live.has_begin other room known
  | @hear place sensor tick =>
    rw [live_hear]
    exact Live.has_finish _ _ _ _ known
  | leave | ask | advance => exact known

theorem Step.known_of_begun (step : polling.Step world more next) {room : String}
    (begun : 0 < PollMoment.begun room more) : Table.has next.live room = true := by
  cases step with
  | begin other =>
    obtain rfl : other = room := by
      by_contra apart
      simp [PollMoment.begun, PollMoment.begins, apart] at begun
    exact polling.live.has_begin_self other
  | hear | leave | ask | advance => simp [PollMoment.begun, PollMoment.begins] at begun

/-- The rooms that are polled are known, and so is every room of which a tick has begun. -/
theorem Steps.known (steps : (idle activity rooms).Steps world moments polling) {room : String}
    (polled : room ∈ rooms ∨ 0 < PollMoment.begun room moments) :
    Table.has polling.live room = true := by
  induction steps with
  | refl =>
    rcases polled with polled | begun
    · exact Live.has_ofRooms polled
    · cases begun
  | @tail moments more middle next steps step ih =>
    rcases Nat.eq_zero_or_pos (PollMoment.begun room more) with none | begun
    · rw [PollMoment.begun_append, none] at polled
      exact step.known (ih polled)
    · exact step.known_of_begun begun

end Polling

-- ============================================================================
-- What a tick changes
-- ============================================================================

theorem Http.outside_exchange (fetch : HttpRequest → σ → σ × HttpReply)
    (request : Except HttpError HttpRequest) (s : σ) :
    (exchange fetch request s).1 = s ∨ ∃ sent, (exchange fetch request s).1 = (fetch sent s).1 := by
  cases request with
  | error e => exact .inl rfl
  | ok sent => exact .inr ⟨sent, rfl⟩

/-- Reading a sensor sends one request to a host at most. -/
theorem RoomSensor.outside_read (fetch : HttpRequest → σ → σ × HttpReply) (s : σ)
    (sensor : RoomSensor) :
    (sensor.read fetch s).1 = s ∨ ∃ request, (sensor.read fetch s).1 = (fetch request s).1 := by
  cases sensor with
  | simulated => exact .inl rfl
  | scripted room next => cases next <;> exact .inl rfl
  | remote room host =>
    simp only [read, HttpSensor.read]
    exact Http.outside_exchange fetch (HttpSensor.request host) s

namespace Polling

/-- Of all that a poller works on nothing has changed but what is known of a room.  Events and
    records are in the engine; devices are outside, where a host may have been asked for what its
    sensors say. -/
structure Spares (world : World σ) (room : String) (before after : Polling σ) : Prop where
  activity : after.activity = { before.activity with
    engine := { before.activity.engine with outside := after.activity.engine.outside } }
  outside : after.activity.engine.outside = before.activity.engine.outside ∨
    ∃ request, after.activity.engine.outside
      = (world.fetch request before.activity.engine.outside).1
  others : ∀ other, other ≠ room → Table.get? after.live other = Table.get? before.live other

namespace Spares

variable {world : World σ} {room : String} {before after : Polling σ}

/-- What asking a host for its sensors does not change is as it was. -/
theorem view_eq (spares : Spares world room before after) {δ : Type} (view : σ → δ)
    (blind : ∀ request s, view (world.fetch request s).1 = view s) :
    view after.activity.engine.outside = view before.activity.engine.outside := by
  rcases spares.outside with same | ⟨request, asked⟩
  · rw [same]
  · rw [asked, blind]

/-- At an installation the devices and the database are as they were. -/
theorem site_eq {before after : Polling Site} (spares : Spares Site.world room before after) :
    after.activity.engine.outside.control = before.activity.engine.outside.control ∧
      after.activity.engine.outside.database = before.activity.engine.outside.database :=
  ⟨spares.view_eq Site.control fun _ _ => rfl, spares.view_eq Site.database fun _ _ => rfl⟩

end Spares

/-- A step of a tick leaves everything else alone unless something has been read. -/
theorem Step.spares {world : World σ} {polling next : Polling σ} {moment : PollMoment}
    (step : polling.Step world [moment] next)
    (unread : ∀ place room snapshot, moment ≠ .heard place room (.ok snapshot)) :
    Spares world moment.room polling next := by
  cases step with
  | begin room => exact ⟨rfl, .inl rfl, fun other apart => Live.get?_begin_of_ne _ apart⟩
  | @hear place sensor tick =>
    have others (other : String) (apart : other ≠ sensor.room) :
        Table.get? (polling.hear world place sensor).live other
          = Table.get? polling.live other := by
      rw [live_hear]
      exact Live.get?_finish_of_ne _ _ apart
    cases heard : polling.reading world sensor with
    | ok snapshot => exact absurd (congrArg _ heard) (unread place sensor.room snapshot)
    | error e =>
      refine ⟨?_, ?_, others⟩
      · rw [hear_of_error heard]
        rfl
      · rw [hear_of_error heard]
        exact sensor.outside_read world.fetch polling.activity.engine.outside
  | leave tick ended => exact ⟨rfl, .inl rfl, fun _ _ => rfl⟩

/-- **Polling keeps its books under overlap.**  However ticks overlap, none of them fails; of every
    room it is known how many ticks have begun, how many readings have failed, what was read last,
    and why the last reading failed, if it did; and a tick whose sensor cannot be read changes
    nothing but what is known of its room, at none of its steps. -/
theorem Steps.bookkeeping {world : World σ} {activity : Activity σ} {rooms : List String}
    {polling : Polling σ} {moments : List PollMoment}
    (steps : (idle activity rooms).Steps world moments polling) :
    (∀ (place : Nat) (room : String) (result : Except TickError Unit),
      polling.ticks[place]? = some ⟨room, .ended result⟩ → result = .ok ()) ∧
    (∀ room,
      (room ∈ rooms ∨ 0 < PollMoment.begun room moments → Table.has polling.live room = true) ∧
      (polling.live.status room).Tells room moments ∧
      ((polling.live.status room).lastError = none ↔
        (PollMoment.results room moments).getLast? = none ∨
          ∃ snapshot, (PollMoment.results room moments).getLast? = some (.ok snapshot))) ∧
    ∀ moment ∈ moments, ∀ (room : String) (e : SensorError),
      .heard moment.tick room (.error e) ∈ moments →
      ∀ before after : Polling σ, before.Step world [moment] after →
        Spares world room before after ∧
          ∀ {δ : Type} (device : σ → δ),
            (∀ request s, device (world.fetch request s).1 = device s) →
            device after.activity.engine.outside = device before.activity.engine.outside := by
  have tells : polling.live.Tells moments := steps.tells (.ofRooms rooms)
  refine ⟨fun place room result ended => ?_, fun room => ⟨steps.known, tells room, ?_⟩, ?_⟩
  · have traced := steps.accounted place
    rw [ended] at traced
    exact traced.result_eq
  · exact (tells room).lastError_eq_none_iff
  · intro moment happened room e unread before after step
    have own : moment ∈ moments.filter fun other => decide (other.tick = moment.tick) :=
      List.mem_filter.2 ⟨happened, decide_eq_true rfl⟩
    -- the tick has two moments: it began, and its sensor could not be read
    rw [steps.trace_eq_of_unread unread] at own
    have spares : Spares world room before after := by
      generalize moment.tick = place at own
      rcases List.mem_pair.1 own with rfl | rfl
      · exact step.spares fun _ _ _ => nofun
      · exact step.spares fun _ _ _ => nofun
    exact ⟨spares, fun device blind => spares.view_eq device blind⟩

/-- A world in which no host can be reached. -/
def cutOff : World Unit := { backend := .obliging, fetch := fun _ s => (s, .unreachable "") }

/-- Two ticks of the attic overlap, and one of the kitchen has begun.  The second tick of the attic
    finds no sensor; then the first reads a snapshot. -/
def atticReadings (snapshot : Json) : List PollMoment :=
  [.began 0 "attic", .began 1 "attic", .began 2 "kitchen",
   .heard 1 "attic" (.error (.unreachable "no route")), .heard 0 "attic" (.ok snapshot)]

theorem exists_steps_atticReadings (activity : Activity Unit) (snapshot : Json) :
    ∃ polling : Polling Unit,
      (idle activity ["attic", "kitchen"]).Steps cutOff (atticReadings snapshot) polling ∧
        polling.activity = activity.submit (.process snapshot) ∧
        polling.ticks[0]? = some ⟨"attic", .dispatching activity.tasks.length⟩ := by
  let absent : RoomSensor := .scripted "attic" (.error "no route")
  let present : RoomSensor := .scripted "attic" (.ok snapshot)
  have begun : (idle activity ["attic", "kitchen"]).Steps cutOff
      [.began 0 "attic", .began 1 "attic", .began 2 "kitchen"] _ :=
    ((Steps.refl.tail (.begin "attic")).tail (.begin "attic")).tail (.begin "kitchen")
  exact ⟨_, (begun.tail (.hear absent rfl)).tail (.hear present rfl), rfl, rfl⟩

/-- What the first tick of the attic reads cannot be dispatched. -/
theorem exists_steps_undispatched : ∃ (polling : Polling Unit) (task : Nat) (e : DispatchError),
    (idle Activity.warmHome ["attic", "kitchen"]).Steps cutOff
        (atticReadings Activity.brokenAttic ++ [.left 0 "attic"]) polling ∧
      polling.activity.dispatchResult? task = some (.error e) ∧
      polling.ticks[0]? = some ⟨"attic", .ended (.ok ())⟩ := by
  obtain ⟨log, activity, e, advances, ended, -⟩ := Activity.exists_steps_brokenAttic
  obtain ⟨heard, readings, submitted, dispatching⟩ :=
    exists_steps_atticReadings Activity.warmHome Activity.brokenAttic
  have first : Activity.warmHome.tasks.length = 0 := by decide +kernel
  rw [first] at dispatching
  rw [← submitted] at advances
  have dispatched := readings.trans (Steps.of_activity advances heard.live heard.ticks)
  rw [List.append_nil] at dispatched
  exact ⟨_, 0, e, dispatched.tail (.leave dispatching ended), ended,
    getElem?_enter_self dispatching _ _⟩

/-- The attic after the two ticks, and all that the failed reading may have changed. -/
theorem bookkeeping_brokenAttic : ∃ (polling : Polling Unit) (task : Nat) (e : DispatchError),
    (idle Activity.warmHome ["attic", "kitchen"]).Steps cutOff
        (atticReadings Activity.brokenAttic ++ [.left 0 "attic"]) polling ∧
      polling.activity.dispatchResult? task = some (.error e) ∧
      polling.ticks[0]? = some ⟨"attic", .ended (.ok ())⟩ ∧
      Table.has polling.live "kitchen" = true ∧
      (polling.live.status "attic").ticks = 2 ∧
      (polling.live.status "attic").failures = 1 ∧
      (polling.live.status "attic").lastSnapshot = some Activity.brokenAttic ∧
      (polling.live.status "attic").lastError = none ∧
      ∀ before after : Polling Unit,
        before.Step cutOff [.heard 1 "attic" (.error (.unreachable "no route"))] after →
        Spares cutOff "attic" before after := by
  obtain ⟨polling, task, e, steps, failed, ended⟩ := exists_steps_undispatched
  obtain ⟨-, books, frame⟩ := steps.bookkeeping
  obtain ⟨-, attic, silent⟩ := books "attic"
  refine ⟨polling, task, e, steps, failed, ended, (books "kitchen").1 (.inl (by simp)), attic.ticks,
    attic.failures, attic.lastSnapshot, silent.2 (.inr ⟨_, rfl⟩), fun before after step => ?_⟩
  have unread : PollMoment.heard 1 "attic" (.error (.unreachable "no route"))
      ∈ atticReadings Activity.brokenAttic ++ [.left 0 "attic"] := by
    simp [atticReadings]
  exact (frame _ unread "attic" _ unread before after step).1

end Polling

end HomeAutomation
