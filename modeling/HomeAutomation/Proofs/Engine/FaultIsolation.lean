/-
  HomeAutomation.Proofs.Engine.FaultIsolation

  Faults are isolated to their device.  Two runs of the engine over a house are
  given the same rules and snapshots, and differ in what is scripted for one
  device and in the fate of saves.  The events are the same in both whenever as
  many snapshots have been applied; and when all is over, what other devices
  were told, what is recorded of them and what became of their actions is the
  same: `Activity.faults_isolated`.

  Of faults that are not for one device, the refusals of a whole house, only the
  first part is true: they go to whichever device is commanded next, and so from
  one device to another, `Activity.refusal_passed_on`.
-/

import HomeAutomation.Proofs.Device.SeparateHouse
import HomeAutomation.Proofs.Engine.Applied
import HomeAutomation.Proofs.Engine.Isolation
import HomeAutomation.Proofs.Engine.Refinement

namespace HomeAutomation

variable {σ τ : Type}

-- ============================================================================
-- Rules, then snapshots
-- ============================================================================

/-- Whether a request is about rules, and starts nothing. -/
def Activity.Request.isRuleChange : Activity.Request → Bool
  | .process _ | .execute _ _ => false
  | _ => true

/-- The engine after changes of its rules. -/
def Engine.ruled (engine : Engine σ) (changes : List Activity.Request) : Engine σ :=
  { engine with
    book := changes.foldl (fun book change => change.book engine.range book) engine.book }

namespace Activity

/-- Changes of rules, and then snapshots, each of which may start to be dispatched at any time. -/
def opening (engine : Engine σ) (changes : List Request) (snapshots : List Json) : Activity σ :=
  (changes.foldl submit { engine }).processAll snapshots

variable {engine : Engine σ} {changes : List Request}

theorem foldl_submit (rules : ∀ change ∈ changes, change.isRuleChange = true) :
    changes.foldl submit { engine } = { engine := engine.ruled changes } := by
  induction changes generalizing engine with
  | nil => rfl
  | cons change rest ih =>
    have starts : change.task? engine.book = none := by
      have rule := rules change List.mem_cons_self
      cases change with
      | process | execute => cases rule
      | register | remove | removeHandle | load => rfl
    have first : submit { engine } change
        = { engine := { engine with book := change.book engine.range engine.book } } := by
      rw [submit, starts]
      rfl
    rw [List.foldl_cons, first, ih fun change h => rules change (List.mem_cons_of_mem _ h)]
    rfl

theorem opening_eq (rules : ∀ change ∈ changes, change.isRuleChange = true)
    (snapshots : List Json) :
    opening engine changes snapshots
      = ({ engine := engine.ruled changes } : Activity σ).processAll snapshots := by
  rw [opening, foldl_submit rules]

theorem reached_ruled (backend : Backend σ) (empty : engine.book = {})
    (rules : ∀ change ∈ changes, change.isRuleChange = true) :
    Reached backend engine [] { engine := engine.ruled changes } :=
  foldl_submit rules ▸ (Reached.start empty).submits changes

theorem reached_opening (backend : Backend σ) (empty : engine.book = {}) (changes : List Request)
    (snapshots : List Json) :
    Reached backend engine [] (opening engine changes snapshots) :=
  ((Reached.start empty).submits changes).processAll snapshots

theorem opening_view (view : σ → τ) (engine : Engine σ) (changes : List Request)
    (snapshots : List Json) :
    (opening engine changes snapshots).view view
      = opening (engine.view view) changes snapshots := by
  have submits (requests : List Request) (activity : Activity σ) :
      (requests.foldl submit activity).view view
        = requests.foldl submit (activity.view view) := by
    induction requests generalizing activity with
    | nil => rfl
    | cons request rest ih =>
      rw [List.foldl_cons, List.foldl_cons, ← submit_view]
      exact ih _
  have processes (activity : Activity σ) :
      (activity.processAll snapshots).view view = (activity.view view).processAll snapshots := by
    rw [processAll_eq, processAll_eq]
    rfl
  rw [opening, processes, submits]
  rfl

-- ============================================================================
-- One run
-- ============================================================================

section OneRun

variable {initial : Engine MirroredHouse} {snapshots : List Json} {mirror : MirrorScript}
  {activity : Activity MirroredHouse}

/-- Over a house that does not refuse commands, the dispatches come to what those without
    concurrency over separate devices come to. -/
theorem TimelySteps.stage_apart (empty : initial.book = {}) (obliging : initial.outside.Obliging)
    (rules : ∀ change ∈ changes, change.isRuleChange = true)
    (steps : (opening initial changes snapshots).TimelySteps mirror.backend activity) :
    ∃ log, Reached (SimulatedDevice.behavior.backend mirror.suspensions)
        (initial.view MirroredHouse.apart) log (activity.view MirroredHouse.apart) ∧
      activity.engine.outside.Obliging ∧
      Stage SimulatedDevice.behavior mirror.suspensions 0
        (Sequential.dispatchAll (SimulatedDevice.behavior.backend mirror.suspensions)
          ((initial.ruled changes).view MirroredHouse.apart) snapshots).1
        (Sequential.dispatchAll (SimulatedDevice.behavior.backend mirror.suspensions)
          ((initial.ruled changes).view MirroredHouse.apart) snapshots).2
        (activity.view MirroredHouse.apart) := by
  have first : (opening initial changes snapshots).engine.outside.Obliging := by
    rw [opening_eq rules, processAll_eq]
    exact obliging
  obtain ⟨shown, obliging'⟩ := steps.seenAs (MirroredHouse.seenAs mirror) first
  rw [opening_view] at shown
  have unruled : (initial.view MirroredHouse.apart).book = {} := empty
  have submitted : Reached (SimulatedDevice.behavior.backend mirror.suspensions)
      (initial.view MirroredHouse.apart) []
      (opening (initial.view MirroredHouse.apart) changes snapshots) :=
    reached_opening _ unruled changes snapshots
  have idle : Reached (SimulatedDevice.behavior.backend mirror.suspensions)
      (initial.view MirroredHouse.apart) []
      { engine := (initial.view MirroredHouse.apart).ruled changes } :=
    reached_ruled _ unruled rules
  have stage := idle.stage (fun task h => nomatch h) snapshots
  rw [← opening_eq rules] at stage
  obtain ⟨log, taken⟩ := shown.steps
  exact ⟨_, submitted.steps taken, obliging', shown.stage stage submitted⟩

/-- Such a run can always be brought to its end. -/
theorem TimelySteps.exists_end (empty : initial.book = {}) (obliging : initial.outside.Obliging)
    (rules : ∀ change ∈ changes, change.isRuleChange = true)
    (steps : (opening initial changes snapshots).TimelySteps mirror.backend activity) :
    ∃ end_, activity.TimelySteps mirror.backend end_ ∧ end_.Quiet := by
  obtain ⟨log, reached, obliging', stage⟩ := steps.stage_apart empty obliging rules
  obtain ⟨shown, ordered, quiet⟩ := stage.exists_end reached
  obtain ⟨end_, taken, rfl⟩ :=
    exists_of_view ordered.timely (MirroredHouse.seenAs mirror) obliging'
  exact ⟨end_, taken, quiet⟩

/-- What the dispatches have returned, when all is over. -/
theorem Returned.dispatchResults {activity : Activity σ}
    {results : List (Except DispatchError (List ActionOutcome))}
    (returned : activity.Returned 0 results) :
    (List.range results.length).map activity.dispatchResult? = results.map some := by
  refine List.ext_getElem? fun i => ?_
  rw [List.getElem?_map, List.getElem?_map]
  rcases Nat.lt_or_ge i results.length with hi | hi
  · have result := List.getElem?_eq_getElem hi
    rw [List.getElem?_range hi, result, Option.map_some, Option.map_some]
    have found := returned i _ result
    rw [Nat.zero_add] at found
    rw [found]
  · rw [List.getElem?_eq_none (by simpa using hi), List.getElem?_eq_none hi]
    rfl

end OneRun

-- ============================================================================
-- Two runs
-- ============================================================================

/-- The house, with a script for one device. -/
def scripted (engine : Engine House) (deviceId : String) (script : DeviceScript) :
    Engine MirroredHouse :=
  engine.view fun house => { house := house.rescript deviceId script }

/-- Two activities that are over have done the same but at one device: there are the same events,
    the same calls to every other device with the same records, and the same reports on what was
    dispatched, but for actions of rules that are for the one device. -/
structure SameElsewhere (first : Engine House) (deviceId : String) (count : Nat)
    (activity other : Activity MirroredHouse) : Prop where
  events : other.engine.book.events = activity.engine.book.events
  calls : ∀ d ≠ deviceId,
    other.engine.outside.house.callsTo d = activity.engine.outside.house.callsTo d
  records : ∀ d ≠ deviceId, other.engine.records.get? d = activity.engine.records.get? d
  reports : ∃ results results' : List (Except DispatchError (List ActionOutcome)),
    (List.range count).map activity.dispatchResult? = results.map some ∧
    (List.range count).map other.dispatchResult? = results'.map some ∧
    results'.map (maskReport fun ruleId => first.deviceOf? ruleId = some deviceId)
      = results.map (maskReport fun ruleId => first.deviceOf? ruleId = some deviceId)

section TwoRuns

variable {engine : Engine House} {snapshots : List Json} {deviceId : String}
  {script script' : DeviceScript} {mirror mirror' : MirrorScript}
  {activity other : Activity MirroredHouse}

/-- Houses that differ in the script for one device differ at it alone. -/
theorem alikeBut_scripted (engine : Engine House) (changes : List Request) (deviceId : String)
    (script script' : DeviceScript) :
    (((scripted engine deviceId script).ruled changes).view MirroredHouse.apart).AlikeBut deviceId
      (((scripted engine deviceId script').ruled changes).view MirroredHouse.apart) where
  alike := ⟨rfl, rfl, fun _ => rfl⟩
  cells d hd := congrArg (Cell.mk · (engine.records.get? d))
    ((engine.outside.device_rescript_ne script' hd).trans
      (engine.outside.device_rescript_ne script hd).symm)

/-- The events are those after the snapshots applied so far. -/
theorem TimelySteps.events_eq {initial initial' : Engine σ} {backend backend' : Backend σ}
    {activity other : Activity σ} (empty : initial.book = {}) (empty' : initial'.book = {})
    (rules : ∀ change ∈ changes, change.isRuleChange = true)
    (alike : (initial.ruled changes).Alike (initial'.ruled changes))
    (steps : (opening initial changes snapshots).TimelySteps backend activity)
    (steps' : (opening initial' changes snapshots).TimelySteps backend' other)
    (applied : activity.applied = other.applied) :
    other.engine.book.events = activity.engine.book.events := by
  have showing (initial : Engine σ) :
      (opening initial changes snapshots).Showing (initial.ruled changes) snapshots := by
    rw [opening_eq rules]
    exact showing_processAll _ snapshots
  have shown := (steps.showing (reached_opening _ empty _ _) (showing initial)).alike
  have shown' := (steps'.showing (reached_opening _ empty' _ _) (showing initial')).alike
  rw [← applied] at shown'
  exact (shown.symm.trans ((alike.observeAll _).trans shown')).events

/-- Two runs of the engine over a house, with the same rules and the same snapshots, that differ in
    what is scripted for one device - how its calls fail, are rejected and suspend - and in which
    saves fail and how often they suspend.  Dispatches start in the order of the snapshots, and the
    runs of a fan-out in theirs, each at any time; all else is up to the schedule of each run.

    Conditions, states and values of all events are the same in both whenever as many snapshots
    have been applied.  Unless the house refuses the next commands whichever devices they go to,
    either run can be brought to its end, and at their ends the same has been done elsewhere. -/
theorem faults_isolated (empty : engine.book = {})
    (rules : ∀ change ∈ changes, change.isRuleChange = true)
    (steps : (opening (scripted engine deviceId script) changes snapshots).TimelySteps
      mirror.backend activity)
    (steps' : (opening (scripted engine deviceId script') changes snapshots).TimelySteps
      mirror'.backend other) :
    (activity.applied = other.applied →
        other.engine.book.events = activity.engine.book.events) ∧
      (engine.outside.devices.refusals = 0 →
        (∃ end_, activity.TimelySteps mirror.backend end_ ∧ end_.Quiet) ∧
        (activity.Quiet → other.Quiet →
          SameElsewhere (engine.ruled changes) deviceId snapshots.length activity other)) := by
  have unruled : (scripted engine deviceId script).book = {} := empty
  have unruled' : (scripted engine deviceId script').book = {} := empty
  have alike : ((scripted engine deviceId script).ruled changes).Alike
      ((scripted engine deviceId script').ruled changes) := ⟨rfl, rfl, fun _ => rfl⟩
  refine ⟨steps.events_eq unruled unruled' rules alike steps', fun unrefused => ?_⟩
  have obliging : (scripted engine deviceId script).outside.Obliging := unrefused
  have obliging' : (scripted engine deviceId script').outside.Obliging := unrefused
  refine ⟨steps.exists_end unruled obliging rules, fun quiet quiet' => ?_⟩
  obtain ⟨-, -, -, stage⟩ := steps.stage_apart unruled obliging rules
  obtain ⟨-, -, -, stage'⟩ := steps'.stage_apart unruled' obliging' rules
  obtain ⟨returned, alike, cells⟩ := stage.of_quiet quiet
  obtain ⟨returned', alike', cells'⟩ := stage'.of_quiet quiet'
  -- the same two runs without concurrency
  have unruled_apart : ((scripted engine deviceId script).view MirroredHouse.apart).book = {} :=
    empty
  have idle : Reached (SimulatedDevice.behavior.backend mirror.suspensions)
      ((scripted engine deviceId script).view MirroredHouse.apart) []
      { engine := ((scripted engine deviceId script).view MirroredHouse.apart).ruled changes } :=
    reached_ruled _ unruled_apart rules
  have tells := Engine.tells_of_linked idle.linked deviceId
  obtain ⟨but, reports⟩ := (alikeBut_scripted engine changes deviceId script script').dispatchAll
    SimulatedDevice.behavior idle.sound tells mirror.suspensions mirror'.suspensions snapshots
  have cell (d : String) (hd : d ≠ deviceId) :
      (other.engine.view MirroredHouse.apart).cell d
        = (activity.engine.view MirroredHouse.apart).cell d :=
    (congrFun cells' d).trans ((but.cells d hd).trans (congrFun cells d).symm)
  refine ⟨?events, fun d hd => ?calls, fun d hd => ?records, _, _, ?results, ?results', reports⟩
  case events => exact (alike.trans (but.alike.trans alike'.symm)).events
  case calls => exact congrArg (fun c => c.device.calls) (cell d hd)
  case records => exact congrArg Cell.recorded (cell d hd)
  case results => rw [← returned.dispatchResults, Sequential.length_dispatchAll]; rfl
  case results' => rw [← returned'.dispatchResults, Sequential.length_dispatchAll]; rfl

end TwoRuns

-- ============================================================================
-- A hall
-- ============================================================================

/-- Whether no task before one that starts is still to start: among dispatches, and among runs. -/
def isTimely (activity : Activity σ) (id : Nat) : Bool :=
  [Task.isUnopened, Task.isReadyRun].all fun unstarted =>
    !activity.has unstarted id || (List.range id).all fun other => !activity.has unstarted other

/-- Takes timely steps in a given order. -/
def followTimely (backend : Backend σ) (activity : Activity σ) : List Nat → Option (Activity σ)
  | [] => some activity
  | id :: rest =>
    if activity.isTimely id then
      (activity.advance backend id).bind fun step => followTimely backend step.next rest
    else none

theorem TimelySteps.follow {backend : Backend σ} {start activity next : Activity σ}
    (steps : start.TimelySteps backend activity) {order : List Nat}
    (follows : activity.followTimely backend order = some next) :
    start.TimelySteps backend next := by
  induction order generalizing activity with
  | nil =>
    cases follows
    exact steps
  | cons id rest ih =>
    rw [followTimely] at follows
    split at follows
    · rename_i timely
      obtain ⟨step, taken, follows⟩ := Option.bind_eq_some_iff.1 follows
      have first (unstarted : Task → Bool)
          (listed : unstarted ∈ [Task.isUnopened, Task.isReadyRun])
          (starts : activity.has unstarted id = true) (other : Nat) (before : other < id) :
          activity.has unstarted other = false := by
        have all := List.all_eq_true.1 timely unstarted listed
        rw [starts, Bool.not_true, Bool.false_or] at all
        simpa using List.all_eq_true.1 all other (List.mem_range.2 before)
      have timelyStep : activity.TimelyStep backend id step.next :=
        ⟨by rw [Step, taken]; rfl, first _ (by simp), first _ (by simp)⟩
      exact ih (steps.tail timelyStep) follows
    · cases follows

/-- A hall with a lamp and a fan, which refuses a number of commands. -/
def breezyHall (refusals : Nat) : Engine House where
  directory := .ofRooms [⟨"hall", .null,
    [⟨"lamp", .null, "light", "hall"⟩, ⟨"fan", .null, "fan", "hall"⟩]⟩]
  range := ⟨16, 30⟩
  outside := { devices := { refusals } }

/-- When there is motion, the lamp is to go on, and the fan. -/
def hallRules : List Request :=
  [.register "if motion in hall then light on" (some "light"),
    .register "if motion in hall then fan on" (some "fan")]

/-- A lamp that is slow and has no power at first. -/
def slowLamp : DeviceScript where
  commands := [some (.breaks "no power")]
  suspensions := fun _ => 1

/-- What is recorded of a lamp and of a fan, and whether all is over. -/
def hallSeen (activity : Activity MirroredHouse) : Bool × Bool × Bool :=
  ((activity.engine.records.get? "lamp").isSome, (activity.engine.records.get? "fan").isSome,
    activity.tasks.all isFinished)

theorem hall_seen {mirror : MirrorScript} {initial : Activity MirroredHouse} {order : List Nat}
    {lamp fan : Bool} (view : (initial.followTimely mirror.backend order).map hallSeen
      = some (lamp, fan, true)) :
    ∃ activity, initial.TimelySteps mirror.backend activity ∧ activity.Quiet ∧
      (activity.engine.records.get? "lamp").isSome = lamp ∧
      (activity.engine.records.get? "fan").isSome = fan := by
  obtain ⟨activity, follows, seen⟩ := Option.map_eq_some_iff.1 view
  obtain ⟨lamp, seen⟩ := Prod.mk.inj seen
  obtain ⟨fan, isOver⟩ := Prod.mk.inj seen
  exact ⟨activity, TimelySteps.refl.follow follows, List.all_eq_true.1 isOver, lamp, fan⟩

/-- The lamp has no power in one run, where no state can be saved either, and has in the other.  All
    is the same but for the lamp. -/
theorem faults_isolated_slowLamp : ∃ activity other,
    (opening (scripted (breezyHall 0) "lamp" slowLamp) hallRules [motion true]).TimelySteps
        (MirrorScript.backend { fails := fun _ => true }) activity ∧
      (opening (scripted (breezyHall 0) "lamp" {}) hallRules [motion true]).TimelySteps
        (MirrorScript.backend {}) other ∧
      activity.Quiet ∧ other.Quiet ∧
      (activity.engine.records.get? "lamp").isSome = false ∧
      (other.engine.records.get? "lamp").isSome = true ∧
      SameElsewhere ((breezyHall 0).ruled hallRules) "lamp" 1 activity other := by
  obtain ⟨activity, steps, quiet, dark, -⟩ : ∃ activity,
      (opening (scripted (breezyHall 0) "lamp" slowLamp) hallRules [motion true]).TimelySteps
        (MirrorScript.backend { fails := fun _ => true }) activity ∧ activity.Quiet ∧
      (activity.engine.records.get? "lamp").isSome = false ∧
      (activity.engine.records.get? "fan").isSome = true :=
    hall_seen (show (followTimely _ _ [0, 0, 1, 1, 2, 2, 1, 1, 2, 2, 1, 1, 2, 0]).map hallSeen
      = some (false, true, true) by decide +kernel)
  obtain ⟨other, steps', quiet', bright, -⟩ : ∃ activity,
      (opening (scripted (breezyHall 0) "lamp" {}) hallRules [motion true]).TimelySteps
        (MirrorScript.backend {}) activity ∧ activity.Quiet ∧
      (activity.engine.records.get? "lamp").isSome = true ∧
      (activity.engine.records.get? "fan").isSome = true :=
    hall_seen (show (followTimely _ _ [0, 0, 1, 1, 1, 1, 1, 2, 2, 2, 2, 2, 0]).map hallSeen
      = some (true, true, true) by decide +kernel)
  have rules : ∀ change ∈ hallRules, change.isRuleChange = true := by decide
  exact ⟨activity, other, steps, steps', quiet, quiet', dark, bright,
    ((faults_isolated rfl rules steps steps').2 rfl).2 quiet quiet'⟩

/-- A house that is told to refuse one command refuses the first that comes to a device.  If the
    lamp has no power, this is the command to the fan. -/
theorem refusal_passed_on : ∃ activity other,
    (opening (scripted (breezyHall 1) "lamp" slowLamp) hallRules [motion true]).TimelySteps
        (MirrorScript.backend {}) activity ∧
      (opening (scripted (breezyHall 1) "lamp" {}) hallRules [motion true]).TimelySteps
        (MirrorScript.backend {}) other ∧
      activity.Quiet ∧ other.Quiet ∧
      (activity.engine.records.get? "fan").isSome = false ∧
      (other.engine.records.get? "fan").isSome = true ∧
      ¬ SameElsewhere ((breezyHall 1).ruled hallRules) "lamp" 1 activity other := by
  obtain ⟨activity, steps, quiet, -, still⟩ : ∃ activity,
      (opening (scripted (breezyHall 1) "lamp" slowLamp) hallRules [motion true]).TimelySteps
        (MirrorScript.backend {}) activity ∧ activity.Quiet ∧
      (activity.engine.records.get? "lamp").isSome = false ∧
      (activity.engine.records.get? "fan").isSome = false :=
    hall_seen (show (followTimely _ _ [0, 0, 1, 1, 1, 1, 1, 1, 2, 2, 2, 2, 0]).map hallSeen
      = some (false, false, true) by decide +kernel)
  obtain ⟨other, steps', quiet', -, turning⟩ : ∃ activity,
      (opening (scripted (breezyHall 1) "lamp" {}) hallRules [motion true]).TimelySteps
        (MirrorScript.backend {}) activity ∧ activity.Quiet ∧
      (activity.engine.records.get? "lamp").isSome = false ∧
      (activity.engine.records.get? "fan").isSome = true :=
    hall_seen (show (followTimely _ _ [0, 0, 1, 1, 1, 1, 2, 2, 2, 2, 2, 0]).map hallSeen
      = some (false, true, true) by decide +kernel)
  refine ⟨activity, other, steps, steps', quiet, quiet', still, turning, fun same => ?_⟩
  rw [same.records "fan" (by decide), still] at turning
  cases turning

end Activity

end HomeAutomation
