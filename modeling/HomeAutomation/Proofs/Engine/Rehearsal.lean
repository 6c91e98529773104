/-
  HomeAutomation.Proofs.Engine.Rehearsal

  The engine without concurrency, step by step.  An action that is carried out
  from start to end takes the steps of a run that nobody else comes between,
  `Run.Alone`, so what holds of every step of a run holds of it too.  Acting on
  notifications one after the other is a rehearsal of their fan-out: it foretells
  what the runs will come to.
-/

import HomeAutomation.Engine.Sequential
import HomeAutomation.Proofs.Engine.Forecast

namespace HomeAutomation

variable {σ δ : Type}

-- ============================================================================
-- A run alone
-- ============================================================================

namespace Run

/-- The engine and the run after steps of one run with nobody else around, whoever holds the
    locks. -/
inductive Alone (backend : Backend σ) (engine : Engine σ) (run : Run) : Engine σ → Run → Prop
  | start : Alone backend engine run engine run
  | next {middle : Engine σ} {before : Run} {step : RunStep σ} (locks : LockTable)
      (alone : Alone backend engine run middle before)
      (proceeds : before.Proceeds backend 0 middle locks step) :
      Alone backend engine run step.engine step.run

variable {backend : Backend σ} {engine middle : Engine σ} {run before : Run}
  {target : DeviceTarget}

/-- A lock that one run alone has asked for is held by it. -/
theorem heldBy_acquire (deviceId : String) :
    (LockTable.acquire [] deviceId 0).heldBy deviceId 0 = true := by
  rw [LockTable.heldBy_iff, LockTable.lock_acquire, if_pos rfl]
  rfl

/-- Accepting alone. -/
theorem Alone.accept {state : DeviceState} {result : Except ExecuteError ExecuteResult}
    {pauses : Nat}
    (alone : Alone backend engine run ((middle.record target.deviceId state).startSave backend).1
      (before.enter (.saving target state result) pauses)) :
    Alone backend engine run
      (before.settle (Sequential.accept middle backend target.deviceId state) result)
      (before.enter (.finished result) 0) :=
  alone.next [] (.save rfl)

/-- Restoring alone. -/
theorem Alone.rollback {failure : CallError} {pauses : Nat}
    (alone : Alone backend engine run
      (middle.startCall backend (.command target before.desired)).1
      (before.enter (.commanding target) pauses))
    (failed : (Sequential.command middle backend target before.desired).2.failure? target.deviceId
      = some failure) :
    Alone backend engine run
      ((Sequential.rollback (Sequential.command middle backend target before.desired).1 backend
        before.action target).1.setPrevious before.action none)
      (before.enter (.finished (.error (.call { failure with
        rollback := some (Sequential.rollback
          (Sequential.command middle backend target before.desired).1 backend before.action
          target).2 }))) 0) := by
  unfold Sequential.rollback
  split
  · rename_i unknown
    exact alone.next [] (.abandon rfl failed unknown)
  · rename_i state known
    have restoring := alone.next [] (.restore rfl failed known)
    dsimp only
    split
    · rename_i accepted
      exact Alone.accept (restoring.next [] (.restored rfl accepted))
    · rename_i reason refused
      exact restoring.next [] (.unrestored rfl refused)

/-- Changing alone. -/
theorem Alone.change {a : Action} {pauses : Nat}
    (alone : Alone backend engine run (middle.startCall backend (.read target)).1
      (before.enter (.reading target) pauses))
    (carries : before.Carries a) :
    Alone backend engine run (Sequential.change middle backend before.action a target).1
      (before.enter
        (.finished (Sequential.change middle backend before.action a target).2) 0) := by
  have commanding := alone.next [] (.read rfl)
  unfold Sequential.change
  rw [← carries.desired, ← carries.kind, ← carries.location]
  dsimp only
  split
  · rename_i accepted
    exact Alone.accept (commanding.next [] (.accept rfl accepted))
  · rename_i failure failed
    exact Alone.rollback commanding failed

/-- Carrying an action out alone. -/
theorem Alone.execute {a : Action} (carries : run.Carries a) (ready : run.phase = .ready) :
    Alone backend engine run
      (Sequential.execute engine backend run.action a run.force).1
      (run.enter (.finished (Sequential.execute engine backend run.action a run.force).2) 0) := by
  unfold Sequential.execute
  rw [← carries.location, ← carries.kind, ← carries.desired]
  split
  · rename_i e unknown
    exact Alone.start.next [] (.unmapped ready unknown)
  · rename_i target known
    have asks : run.Proceeds backend 0 engine [] ⟨engine, LockTable.acquire [] target.deviceId 0,
        run.enter (.queued target) 0, none⟩ := .ask ready known
    have asked := Alone.start.next [] asks
    have held := heldBy_acquire target.deviceId
    split
    · rename_i needed
      exact Alone.change (asked.next _ (.begin rfl held needed))
        ⟨carries.location, carries.kind, carries.desired⟩
    · rename_i needless
      exact asked.next _ (.skip rfl held (Bool.eq_false_iff.2 needless))

theorem Alone.directory_eq (alone : Alone backend engine run middle before) :
    middle.directory = engine.directory := by
  induction alone with
  | start => rfl
  | next _ _ proceeds ih => rw [proceeds.directory_eq, ih]

theorem Alone.events_eq (alone : Alone backend engine run middle before) :
    middle.book.events = engine.book.events := by
  induction alone with
  | start => rfl
  | next _ _ proceeds ih => rw [proceeds.events_eq, ih]

theorem Alone.plan?_eq (alone : Alone backend engine run middle before) (id : Nat) :
    middle.book.plan? id = engine.book.plan? id := by
  induction alone with
  | start => rfl
  | next _ _ proceeds ih => rw [proceeds.plan?_eq, ih]

/-- A run stays what it is. -/
theorem Alone.run_eq (alone : Alone backend engine run middle before) :
    before = run.enter before.phase before.pauses := by
  induction alone with
  | start => rfl
  | next _ _ proceeds ih =>
    rw [proceeds.run_eq, ih]
    rfl

/-- A run deals with the device of its action. -/
theorem Alone.target?_eq (alone : Alone backend engine run middle before)
    (ready : run.phase = .ready)
    (known : engine.directory.resolve run.location run.kind.name = .ok target)
    {found : DeviceTarget} (hfound : before.target? = some found) : found = target := by
  induction alone generalizing found with
  | start => rw [Run.target?, ready] at hfound; cases hfound
  | @next middle before step locks alone proceeds ih =>
    rcases proceeds.target?_eq hfound with same | resolves
    · exact ih same
    · have hrun := alone.run_eq
      have location : before.location = run.location := by rw [hrun]; rfl
      have kind : before.kind = run.kind := by rw [hrun]; rfl
      rw [alone.directory_eq, location, kind] at resolves
      exact Except.ok.inj (resolves.symm.trans known)

section Cells

variable {behavior : DeviceBehavior δ} {savePauses : Nat → Nat}
  {engine middle : Engine (Devices δ)}

/-- A run alone comes to the end that was ahead of it. -/
theorem Alone.rest_eq (alone : Alone (behavior.backend savePauses) engine run middle before)
    (ready : run.phase = .ready)
    (known : engine.directory.resolve run.location run.kind.name = .ok target) {a : Action}
    (ha : engine.book.action? run.action = some a) :
    before.rest behavior target (middle.book.previous? run.action) (middle.cell target.deviceId)
      = run.rest behavior target (engine.book.previous? run.action)
          (engine.cell target.deviceId) := by
  induction alone with
  | start => rfl
  | @next middle before step locks alone proceeds ih =>
    have hrun := alone.run_eq
    have location : before.location = run.location := by rw [hrun]; rfl
    have kind : before.kind = run.kind := by rw [hrun]; rfl
    have action : before.action = run.action := by rw [hrun]; rfl
    have known' : middle.directory.resolve before.location before.kind.name = .ok target := by
      rw [alone.directory_eq, location, kind]
      exact known
    have planned : middle.book.plan? before.action = some a.plan := by
      rw [alone.plan?_eq, action, RuleBook.plan?, ha]
      rfl
    obtain ⟨a', ha', -⟩ := Option.map_eq_some_iff.1 planned
    rw [← action, proceeds.rest_eq known' (fun _ h => alone.target?_eq ready known h) ha', action]
    exact ih

/-- A run alone leaves other devices alone. -/
theorem Alone.cell_ne (alone : Alone (behavior.backend savePauses) engine run middle before)
    (ready : run.phase = .ready)
    (known : engine.directory.resolve run.location run.kind.name = .ok target) {d : String}
    (hd : d ≠ target.deviceId) : middle.cell d = engine.cell d := by
  induction alone with
  | start => rfl
  | next _ alone proceeds ih =>
    rw [proceeds.cell_ne fun found h => alone.target?_eq ready known h ▸ hd, ih]

/-- What a run alone does: without a device it fails and changes nothing; else it brings about what
    was ahead of it at its device, and nothing at others. -/
structure Brings (run : Run) (behavior : DeviceBehavior δ) (engine after : Engine (Devices δ))
    (result : Except ExecuteError ExecuteResult) : Prop where
  unmapped : ∀ e, engine.directory.resolve run.location run.kind.name = .error e →
    result = .error (.notFound e) ∧ after.cell = engine.cell
  here : ∀ target previous, engine.directory.resolve run.location run.kind.name = .ok target →
    run.rest behavior target previous (engine.cell target.deviceId)
      = (after.cell target.deviceId, result)
  elsewhere : ∀ target d, engine.directory.resolve run.location run.kind.name = .ok target →
    d ≠ target.deviceId → after.cell d = engine.cell d

/-- Carrying out the action of a run brings about what the run would. -/
theorem Carries.brings {a : Action} (carries : run.Carries a) (ready : run.phase = .ready)
    (ha : engine.book.action? run.action = some a) (savePauses : Nat → Nat) :
    run.Brings behavior engine
      (Sequential.execute engine (behavior.backend savePauses) run.action a run.force).1
      (Sequential.execute engine (behavior.backend savePauses) run.action a run.force).2 where
  unmapped e unknown := by
    rw [carries.location, carries.kind] at unknown
    rw [Sequential.execute, unknown]
    exact ⟨rfl, rfl⟩
  here target previous known := by
    have alone : Alone (behavior.backend savePauses) engine run _ _ := .execute carries ready
    have outside : run.isInside = false := by rw [isInside, ready]
    rw [rest_of_outside outside previous (engine.book.previous? run.action),
      ← alone.rest_eq ready known ha]
    rfl
  elsewhere target d known hd := (Alone.execute carries ready).cell_ne ready known hd

end Cells

end Run

-- ============================================================================
-- Engines alike
-- ============================================================================

/-- Engines of one home whose events are the same and whose actions are for the same. -/
structure Engine.Alike (engine other : Engine σ) : Prop where
  directory : other.directory = engine.directory
  events : other.book.events = engine.book.events
  plans : ∀ id, other.book.plan? id = engine.book.plan? id

namespace RuleBook

/-- What a reading does to events is up to the events. -/
theorem observeReading_congr (r : SensorReading) {book other : RuleBook}
    (events : other.events = book.events) (triggered ids : List Nat) :
    (observeReading r other triggered ids).1.events
        = (observeReading r book triggered ids).1.events ∧
      (observeReading r other triggered ids).2 = (observeReading r book triggered ids).2 := by
  induction ids generalizing book other triggered with
  | nil => exact ⟨events, rfl⟩
  | cons id rest ih =>
    rw [observeReading, observeReading, events]
    cases book.events.event? id with
    | none => exact ih events triggered
    | some e =>
      dsimp only
      cases (e.update r).2 with
      | error error => exact ⟨rfl, rfl⟩
      | ok flipped =>
        refine ih ?_ _
        rfl

theorem observe_congr {book other : RuleBook} (events : other.events = book.events)
    (triggered : List Nat) (readings : List SensorReading) :
    (other.observe triggered readings).1.events = (book.observe triggered readings).1.events ∧
      (other.observe triggered readings).2 = (book.observe triggered readings).2 := by
  induction readings generalizing book other triggered with
  | nil => exact ⟨events, rfl⟩
  | cons r rest ih =>
    obtain ⟨hevents, hrest⟩ := observeReading_congr r events triggered
      (book.events.matching r.metric r.location)
    rw [observe, observe, events]
    revert hevents hrest
    generalize observeReading r other triggered _ = there
    generalize observeReading r book triggered _ = here
    obtain ⟨book', triggered', error⟩ := here
    obtain ⟨other', -, -⟩ := there
    rintro hevents ⟨⟩
    cases error with
    | some error => exact ⟨hevents, rfl⟩
    | none => exact ih hevents triggered'

end RuleBook

namespace Engine.Alike

variable {engine other third : Engine σ}

theorem refl (engine : Engine σ) : engine.Alike engine := ⟨rfl, rfl, fun _ => rfl⟩

theorem symm (alike : engine.Alike other) : other.Alike engine :=
  ⟨alike.directory.symm, alike.events.symm, fun id => (alike.plans id).symm⟩

theorem trans (alike : engine.Alike other) (alike' : other.Alike third) : engine.Alike third :=
  ⟨alike'.directory.trans alike.directory, alike'.events.trans alike.events,
    fun id => (alike'.plans id).trans (alike.plans id)⟩

theorem of_alone {backend : Backend σ} {run before : Run}
    (alone : run.Alone backend engine other before) : engine.Alike other :=
  ⟨alone.directory_eq, alone.events_eq, alone.plan?_eq⟩

theorem of_proceeds {run : Run} {backend : Backend σ} {self : Nat} {locks : LockTable}
    {step : RunStep σ} (proceeds : run.Proceeds backend self engine locks step) :
    engine.Alike step.engine :=
  ⟨proceeds.directory_eq, proceeds.events_eq, proceeds.plan?_eq⟩

/-- Alike engines notify alike. -/
theorem notices (alike : engine.Alike other) (events : List Nat) :
    other.notices events = engine.notices events := by
  have told (book : RuleBook) (id : Nat) (condition : String) (state : Bool) :
      ((book.action? id).map fun a => (⟨id, a.ruleId, condition, state⟩ : Notice))
        = (book.plan? id).map fun a => ⟨id, a.ruleId, condition, state⟩ := by
    rw [RuleBook.plan?, Option.map_map]
    rfl
  have same : other.book.notices = engine.book.notices := by
    funext event
    unfold RuleBook.notices
    simp only [told, alike.plans, alike.events]
  rw [Engine.notices, Engine.notices, same]

/-- A snapshot does to alike engines alike. -/
theorem observe (alike : engine.Alike other) {snapshot : Json} {engine' : Engine σ}
    {result : Except DispatchError (List Nat)}
    (observes : engine.observe snapshot = (engine', result)) :
    ∃ other', other.observe snapshot = (other', result) ∧ engine'.Alike other' := by
  unfold Engine.observe at observes ⊢
  cases parsed : Snapshot.readings snapshot with
  | error e =>
    rw [parsed] at observes
    cases observes
    exact ⟨other, rfl, alike⟩
  | ok readings =>
    rw [parsed] at observes
    cases observes
    obtain ⟨events, triggered⟩ := RuleBook.observe_congr alike.events [] readings
    rw [← triggered]
    refine ⟨_, rfl, alike.directory, events, fun id => ?_⟩
    simp only [RuleBook.plan?, RuleBook.action?, RuleBook.actions_observe]
    exact alike.plans id

end Engine.Alike

/-- A snapshot touches no device. -/
theorem Engine.cell_observe {engine engine' : Engine (Devices δ)} {snapshot : Json}
    {result : Except DispatchError (List Nat)}
    (h : engine.observe snapshot = (engine', result)) : engine'.cell = engine.cell :=
  cell_congr (outside_observe h) (records_observe h)

-- ============================================================================
-- A fan-out rehearsed
-- ============================================================================

namespace Activity

/-- The runs of a fan-out have the numbers from the first on, and each belongs to a notification. -/
theorem slotsOf_numbers {book : RuleBook} {force : Bool} {parent : Option Nat} {first : Nat}
    {notices : List Notice} {slots : List Slot} {runs : List Run}
    (fans : slotsOf book force parent first notices = (slots, runs)) :
    (∀ slot ∈ slots, ∀ id, slot.run = some id → first ≤ id ∧ id < first + runs.length) ∧
      ∀ i < runs.length, ∃ slot ∈ slots, slot.run = some (first + i) := by
  induction notices generalizing first slots runs with
  | nil =>
    cases fans
    exact ⟨by simp, by simp⟩
  | cons notice rest ih =>
    rw [slotsOf] at fans
    split at fans
    · cases fans
      obtain ⟨within, covered⟩ := ih rfl
      refine ⟨fun slot hslot id hid => ?_, fun i hi => ?_⟩
      · rcases List.mem_cons.1 hslot with rfl | hslot
        · obtain rfl := Option.some.inj hid
          simp
        · have := within slot hslot id hid
          simp only [List.length_cons]
          omega
      · cases i with
        | zero => exact ⟨_, List.mem_cons_self, rfl⟩
        | succ i =>
          obtain ⟨slot, hslot, hid⟩ := covered i (by simpa using hi)
          exact ⟨slot, List.mem_cons_of_mem _ hslot, by rw [hid]; congr 1; omega⟩
    · cases fans
      obtain ⟨within, covered⟩ := ih rfl
      refine ⟨fun slot hslot id hid => ?_, fun i hi => ?_⟩
      · rcases List.mem_cons.1 hslot with rfl | hslot
        · cases hid
        · exact within slot hslot id hid
      · obtain ⟨slot, hslot, hid⟩ := covered i hi
        exact ⟨slot, List.mem_cons_of_mem _ hslot, hid⟩

/-- What acting on notifications one after the other foretells of their fan-out.  `shown` has the
    runs of the fan-out, which begin with the number `first`, among its tasks. -/
structure Rehearsed (behavior : DeviceBehavior δ) (shown : Activity (Devices δ)) (first : Nat)
    (runs : List Run) (slots : List Slot) (foretold : Nat → Except ExecuteError ExecuteResult)
    (before after : Engine (Devices δ)) (outcomes : List ActionOutcome) : Prop where
  plays : ∀ d, shown.Plays behavior foretold d
    ((runs.map Task.run).findIdxs (Task.isBound shown.engine.directory d) first)
    (before.cell d) (after.cell d)
  unmapped : ∀ {i : Nat} {run : Run} {e : DeviceNotFound}, runs[i]? = some run →
    shown.engine.directory.resolve run.location run.kind.name = .error e →
    foretold (first + i) = .error (.notFound e)
  reports : outcomes = slots.map fun slot => slot.notice.outcome (slot.run.map foretold)
  alike : shown.engine.Alike after

variable {behavior : DeviceBehavior δ} {savePauses : Nat → Nat} {shown : Activity (Devices δ)}

/-- A notification with a run comes first. -/
theorem Rehearsed.cons {first : Nat} {run : Run} {runs : List Run} {notice : Notice}
    {slots : List Slot} {foretold : Nat → Except ExecuteError ExecuteResult}
    {before middle after : Engine (Devices δ)} {outcomes : List ActionOutcome}
    {result : Except ExecuteError ExecuteResult}
    (rehearsed : Rehearsed behavior shown (first + 1) runs slots foretold middle after outcomes)
    (task : shown.tasks[first]? = some (.run run)) (ready : run.isReady = true)
    (directory : before.directory = shown.engine.directory)
    (brings : run.Brings behavior before middle result)
    (later : ∀ slot ∈ slots, ∀ id, slot.run = some id → first + 1 ≤ id) :
    Rehearsed behavior shown first (run :: runs) (⟨notice, some first⟩ :: slots)
      (fun id => if id = first then result else foretold id) before after
      (notice.outcome (some result) :: outcomes) where
  plays d := by
    have others : shown.Plays behavior (fun id => if id = first then result else foretold id) d
        ((runs.map Task.run).findIdxs (Task.isBound shown.engine.directory d) (first + 1))
        (middle.cell d) (after.cell d) := by
      refine (rehearsed.plays d).foretell fun id hid => if_neg ?_
      have := List.ge_of_mem_findIdxs id hid
      omega
    rw [List.map_cons, List.findIdxs_cons, Task.isBound, ready, Bool.true_and]
    cases known : shown.engine.directory.resolve run.location run.kind.name with
    | error e =>
      rw [← (brings.unmapped e (directory ▸ known)).2]
      exact others
    | ok target =>
      by_cases hd : target.deviceId = d
      · subst hd
        rw [if_pos (by simp [Except.toOption])]
        refine .cons task known rfl ?_ others
        rw [if_pos rfl]
        exact brings.here target _ (directory ▸ known)
      · rw [if_neg (by simp [Except.toOption, hd]),
          ← brings.elsewhere target d (directory ▸ known) (Ne.symm hd)]
        exact others
  unmapped {i r e} hi unknown := by
    cases i with
    | zero =>
      obtain rfl : run = r := Option.some.inj hi
      exact (if_pos rfl).trans (brings.unmapped e (directory ▸ unknown)).1
    | succ i =>
      rw [if_neg (by omega), show first + (i + 1) = first + 1 + i by omega]
      exact rehearsed.unmapped hi unknown
  reports := by
    rw [rehearsed.reports, List.map_cons]
    refine congrArg₂ _ (by simp) (List.map_congr_left fun slot hslot => ?_)
    cases hid : slot.run with
    | none => rfl
    | some id =>
      have := later slot hslot id hid
      rw [Option.map_some, Option.map_some, if_neg (by omega)]
  alike := rehearsed.alike

/-- A notification without a run comes first. -/
theorem Rehearsed.cons_none {first : Nat} {runs : List Run} {notice : Notice} {slots : List Slot}
    {foretold : Nat → Except ExecuteError ExecuteResult} {before after : Engine (Devices δ)}
    {outcomes : List ActionOutcome}
    (rehearsed : Rehearsed behavior shown first runs slots foretold before after outcomes) :
    Rehearsed behavior shown first runs (⟨notice, none⟩ :: slots) foretold before after
      (notice.outcome none :: outcomes) :=
  ⟨rehearsed.plays, rehearsed.unmapped, by rw [rehearsed.reports]; rfl, rehearsed.alike⟩

/-- Acting on notifications one after the other rehearses their fan-out. -/
theorem exists_rehearsed {before : Engine (Devices δ)} (alike : shown.engine.Alike before)
    {parent : Option Nat} {notices : List Notice} {first : Nat} {slots : List Slot}
    {runs : List Run}
    (fans : slotsOf shown.engine.book false parent first notices = (slots, runs))
    (tasks : ∀ (i : Nat) (run : Run), runs[i]? = some run →
      shown.tasks[first + i]? = some (.run run)) :
    ∃ foretold, Rehearsed behavior shown first runs slots foretold before
      (Sequential.actAll (behavior.backend savePauses) false before notices).1
      (Sequential.actAll (behavior.backend savePauses) false before notices).2 := by
  induction notices generalizing before first slots runs with
  | nil =>
    cases fans
    exact ⟨fun _ => .ok (.unchanged "" { power := false }), fun _ => .nil, by simp, rfl, alike⟩
  | cons notice rest ih =>
    have plans : ((before.book.action? notice.action).filter fun _ => notice.active).map Action.plan
        = ((shown.engine.book.action? notice.action).filter fun _ => notice.active).map
            Action.plan := by
      have plan (o : Option Action) : (o.filter fun _ => notice.active).map Action.plan
          = (o.map Action.plan).filter fun _ => notice.active := by
        cases o <;> cases notice.active <;> rfl
      rw [plan, plan]
      exact congrArg _ (alike.plans notice.action)
    rw [slotsOf] at fans
    split at fans
    · rename_i a ha
      cases fans
      rw [ha] at plans
      obtain ⟨a', ha', plan⟩ := Option.map_eq_some_iff.1 plans
      have carries : (Run.ofAction notice.action a false parent).Carries a' :=
        ⟨congrArg (·.spec.location) plan.symm, congrArg (·.spec.device) plan.symm,
          congrArg (·.desired) plan.symm⟩
      have alone : (Run.ofAction notice.action a false parent).Alone (behavior.backend savePauses)
        before _ _ := .execute carries rfl
      obtain ⟨foretold, rehearsed⟩ := ih (alike.trans (.of_alone alone)) rfl fun i run hi => by
        rw [Nat.add_assoc, Nat.add_comm 1 i]
        exact tasks (i + 1) run hi
      have numbers := slotsOf_numbers (rfl : slotsOf shown.engine.book false parent (first + 1) rest
        = (_, _))
      rw [Sequential.actAll, Sequential.act, ha']
      exact ⟨_, rehearsed.cons (tasks 0 _ rfl) rfl alike.directory
        (carries.brings rfl (Option.filter_eq_some_iff.1 ha').1 savePauses)
        fun slot hslot id hid => (numbers.1 slot hslot id hid).1⟩
    · rename_i ha
      cases fans
      rw [ha] at plans
      obtain ⟨foretold, rehearsed⟩ := ih alike rfl tasks
      rw [Sequential.actAll, Sequential.act, Option.map_eq_none_iff.1 plans]
      exact ⟨foretold, rehearsed.cons_none⟩

end Activity

end HomeAutomation
