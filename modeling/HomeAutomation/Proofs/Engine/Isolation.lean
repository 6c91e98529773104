/-
  HomeAutomation.Proofs.Engine.Isolation

  Two engines that differ at one device.  Without concurrency, an action on that
  device may fare differently in the two and changes nothing elsewhere; every
  other action finds its own device as it is in both, and comes to the same.  So
  the engines stay the same but for the one device, snapshot after snapshot, and
  report the same of all that was done elsewhere: `Engine.AlikeBut.dispatchAll`.
-/

import HomeAutomation.Proofs.Engine.Correspondence
import HomeAutomation.Proofs.Engine.Rehearsal

namespace HomeAutomation

variable {σ δ : Type}

-- ============================================================================
-- Reports
-- ============================================================================

/-- An outcome without what became of an action that is hidden. -/
def ActionOutcome.masked (hidden : String → Bool) (outcome : ActionOutcome) : ActionOutcome :=
  if hidden outcome.ruleId then { ruleId := outcome.ruleId, condition := outcome.condition }
  else outcome

/-- What a dispatch reports, without what became of actions that are hidden. -/
def maskReport (hidden : String → Bool) :
    Except DispatchError (List ActionOutcome) → Except DispatchError (List ActionOutcome) :=
  Except.map (List.map (·.masked hidden))

theorem Notice.outcome_some (notice : Notice) (result : Except ExecuteError ExecuteResult) :
    (notice.outcome (some result)).ruleId = notice.ruleId ∧
      (notice.outcome (some result)).condition = notice.condition := by
  cases result <;> exact ⟨rfl, rfl⟩

/-- Results that agree unless they are hidden make for the same report. -/
theorem Notice.masked_outcome {notice : Notice} {hidden : String → Bool}
    {result result' : Except ExecuteError ExecuteResult}
    (same : hidden notice.ruleId = false → result' = result) :
    (notice.outcome (some result')).masked hidden
      = (notice.outcome (some result)).masked hidden := by
  obtain ⟨rule, condition⟩ := notice.outcome_some result
  obtain ⟨rule', condition'⟩ := notice.outcome_some result'
  cases shown : hidden notice.ruleId with
  | false => rw [same shown]
  | true =>
    rw [ActionOutcome.masked, ActionOutcome.masked, rule, rule', condition, condition',
      if_pos shown, if_pos shown]

-- ============================================================================
-- The device of a rule
-- ============================================================================

namespace Engine

/-- The device that an action is for, if there is one. -/
def target? (engine : Engine σ) (a : Action) : Option String :=
  (engine.directory.resolve a.spec.location a.spec.device.name).toOption.map (·.deviceId)

/-- The device of the action of a rule, if there is one. -/
def deviceOf? (engine : Engine σ) (ruleId : String) : Option String :=
  ((engine.book.rule? ruleId).bind fun handle =>
    engine.book.plan? handle.action).bind engine.target?

/-- Actions that wait for events act elsewhere, unless their rules are hidden. -/
def Tells (engine : Engine σ) (hidden : String → Bool) (deviceId : String) : Prop :=
  ∀ event ∈ engine.book.events.registered, ∀ e, engine.book.events.event? event = some e →
    ∀ action ∈ e.actions, ∀ plan, engine.book.plan? action = some plan →
      hidden plan.ruleId = false → engine.target? plan ≠ some deviceId

variable {engine other : Engine σ} {hidden : String → Bool} {deviceId : String}

/-- If the rules of a device are hidden, the others act elsewhere. -/
theorem tells_of_linked {range : SetPointRange} (linked : RuleBook.Linked range engine.book)
    (deviceId : String) :
    engine.Tells (fun ruleId => engine.deviceOf? ruleId = some deviceId) deviceId := by
  intro event registered e he action waits plan known shown there
  rw [linked.actions registered he] at waits
  obtain ⟨⟨name, handle⟩, kept, rfl⟩ := List.mem_map.1 waits
  have listed := (List.mem_filter.1 kept).1
  obtain ⟨rule, backed⟩ := linked.backed _ listed
  obtain rfl := Option.some.inj (known.symm.trans backed.plan)
  have found : engine.book.rule? name = some handle := Table.get?_of_mem linked.names listed
  refine (of_decide_eq_false shown) ?_
  rw [deviceOf?, found, Option.bind_some, known, Option.bind_some]
  exact there

theorem Alike.target? (alike : engine.Alike other) : other.target? = engine.target? := by
  funext a
  rw [Engine.target?, Engine.target?, alike.directory]

theorem Alike.tells (alike : engine.Alike other) (tells : engine.Tells hidden deviceId) :
    other.Tells hidden deviceId := by
  intro event registered e he action waits plan known
  rw [alike.events] at registered he
  rw [alike.plans] at known
  rw [alike.target?]
  exact tells event registered e he action waits plan known

theorem Tells.after (tells : engine.Tells hidden deviceId) (readings : List SensorReading) :
    (engine.after readings).Tells hidden deviceId := by
  intro event registered e' he' action waits plan known
  have frame := engine.book.events.alike_observed readings
  obtain ⟨e, he, -, actions⟩ := frame.exists_event he'
  rw [actions] at waits
  exact tells event (frame.registered ▸ registered) e he action waits plan known

theorem Alike.sound (alike : engine.Alike other) (sound : engine.book.Sound) :
    other.book.Sound := by
  have plans : other.book.actions.map Action.plan = engine.book.actions.map Action.plan :=
    List.ext_getElem? fun id => by
      rw [List.getElem?_map, List.getElem?_map]
      exact alike.plans id
  refine sound.alike (alike.events ▸ .refl _) ?_
  simpa using congrArg List.length plans

/-- What a snapshot sets off is about actions that wait for events. -/
theorem Tells.notices (tells : engine.Tells hidden deviceId) {events : List Nat}
    (registered : ∀ event ∈ events, event ∈ engine.book.events.registered) :
    ∀ notice ∈ engine.notices events, ∀ plan, engine.book.plan? notice.action = some plan →
      hidden notice.ruleId = false → engine.target? plan ≠ some deviceId := by
  intro notice told plan known shown
  obtain ⟨event, found, told⟩ := List.mem_flatMap.1 told
  unfold RuleBook.notices at told
  cases he : engine.book.events.event? event with
  | none => simp [he] at told
  | some e =>
    rw [he] at told
    obtain ⟨action, waits, made⟩ := List.mem_filterMap.1 told
    obtain ⟨a, ha, rfl⟩ := Option.map_eq_some_iff.1 made
    have planned : engine.book.plan? action = some a.plan := by rw [RuleBook.plan?, ha]; rfl
    obtain rfl := Option.some.inj (known.symm.trans planned)
    exact tells event (registered event found) e he action waits _ planned shown

/-- Events found by a snapshot are registered. -/
theorem registered_of_observe (sound : engine.book.Sound) {engine' : Engine σ} {snapshot : Json}
    {events : List Nat} (observes : engine.observe snapshot = (engine', .ok events)) :
    ∀ event ∈ events, event ∈ engine'.book.events.registered := by
  obtain ⟨readings, -, -, rfl, rfl⟩ := observe_eq_ok sound observes
  intro event found
  obtain ⟨r, -, found⟩ := List.mem_flatMap.1 found
  have watched := sound.indexed.exists_of_matching (List.mem_filter.1 found).1
  exact (engine.book.events.alike_observed readings).registered ▸ watched.1

end Engine

-- ============================================================================
-- One action
-- ============================================================================

namespace Engine

variable {engine other : Engine (Devices δ)} {deviceId : String} {hidden : String → Bool}

/-- Engines that are alike, whose devices are in the same states with the same records, but for
    one. -/
structure AlikeBut (deviceId : String) (engine other : Engine (Devices δ)) : Prop where
  alike : engine.Alike other
  cells : ∀ d ≠ deviceId, other.cell d = engine.cell d

/-- What a run brings about where two engines differ at one device.  They differ at most there
    afterwards, and the run comes to the same unless it is for that device. -/
theorem AlikeBut.brings (but : engine.AlikeBut deviceId other) {run : Run}
    {behavior : DeviceBehavior δ} {after after' : Engine (Devices δ)}
    {result result' : Except ExecuteError ExecuteResult}
    (brings : run.Brings behavior engine after result)
    (brings' : run.Brings behavior other after' result') :
    (∀ d ≠ deviceId, after'.cell d = after.cell d) ∧
      ((engine.directory.resolve run.location run.kind.name).toOption.map (·.deviceId)
        ≠ some deviceId → result' = result) := by
  have directory := but.alike.directory
  cases known : engine.directory.resolve run.location run.kind.name with
  | error e =>
    obtain ⟨isError, cells⟩ := brings.unmapped e known
    obtain ⟨isError', cells'⟩ := brings'.unmapped e (directory ▸ known)
    refine ⟨fun d hd => ?_, fun _ => isError'.trans isError.symm⟩
    rw [cells, cells']
    exact but.cells d hd
  | ok target =>
    have known' : other.directory.resolve run.location run.kind.name = .ok target :=
      directory ▸ known
    have elsewhere (d : String) (hd : d ≠ deviceId) (apart : d ≠ target.deviceId) :
        after'.cell d = after.cell d := by
      rw [brings.elsewhere target d known apart, brings'.elsewhere target d known' apart]
      exact but.cells d hd
    by_cases there : target.deviceId = deviceId
    · exact ⟨fun d hd => elsewhere d hd (there ▸ hd),
        fun other => absurd (congrArg some there) other⟩
    · -- the device is the same in both, and so is what the run makes of it
      have here := brings.here target none known
      have here' := brings'.here target none known'
      rw [but.cells _ there, here] at here'
      obtain ⟨cell, same⟩ := Prod.mk.inj here'
      refine ⟨fun d hd => ?_, fun _ => same.symm⟩
      by_cases own : d = target.deviceId
      · rw [own, cell]
      · exact elsewhere d hd own

/-- An action changes at most its own device, and elsewhere than at the one device it comes to the
    same. -/
theorem AlikeBut.execute (but : engine.AlikeBut deviceId other) (behavior : DeviceBehavior δ)
    {id : Nat} {a a' : Action}
    (ha : engine.book.action? id = some a) (ha' : other.book.action? id = some a')
    (plan : a'.plan = a.plan) (force : Bool) (pauses pauses' : Nat → Nat) :
    (Sequential.execute engine (behavior.backend pauses) id a force).1.AlikeBut deviceId
        (Sequential.execute other (behavior.backend pauses') id a' force).1 ∧
      (engine.target? a.plan ≠ some deviceId →
        (Sequential.execute other (behavior.backend pauses') id a' force).2
          = (Sequential.execute engine (behavior.backend pauses) id a force).2) := by
  -- both carry out one run
  let run := Run.ofAction id a force none
  have carries : run.Carries a := ⟨rfl, rfl, rfl⟩
  have carries' : run.Carries a' := ⟨congrArg (·.spec.location) plan.symm,
    congrArg (·.spec.device) plan.symm, congrArg (·.desired) plan.symm⟩
  obtain ⟨cells, same⟩ :=
    but.brings (carries.brings rfl ha pauses) (carries'.brings rfl ha' pauses')
  have alike : engine.Alike
      (Sequential.execute engine (behavior.backend pauses) id a force).1 :=
    .of_alone (Run.Alone.execute carries rfl)
  have alike' : other.Alike
      (Sequential.execute other (behavior.backend pauses') id a' force).1 :=
    .of_alone (Run.Alone.execute carries' rfl)
  exact ⟨⟨alike.symm.trans (but.alike.trans alike'), cells⟩, same⟩

-- ============================================================================
-- Snapshots
-- ============================================================================

theorem Alike.exists_action (alike : engine.Alike other) {id : Nat} {a : Action}
    (ha : engine.book.action? id = some a) :
    ∃ a', other.book.action? id = some a' ∧ a'.plan = a.plan := by
  have same := alike.plans id
  rw [RuleBook.plan?, RuleBook.plan?, ha] at same
  exact Option.map_eq_some_iff.1 same

/-- Acting on a notification. -/
theorem AlikeBut.act (but : engine.AlikeBut deviceId other) (behavior : DeviceBehavior δ)
    {notice : Notice}
    (tells : ∀ plan, engine.book.plan? notice.action = some plan →
      hidden notice.ruleId = false → engine.target? plan ≠ some deviceId)
    (force : Bool) (pauses pauses' : Nat → Nat) :
    (Sequential.act (behavior.backend pauses) force engine notice).1.AlikeBut deviceId
        (Sequential.act (behavior.backend pauses') force other notice).1 ∧
      (Sequential.act (behavior.backend pauses') force other notice).2.masked hidden
        = (Sequential.act (behavior.backend pauses) force engine notice).2.masked hidden ∧
      engine.Alike (Sequential.act (behavior.backend pauses) force engine notice).1 := by
  cases ha : engine.book.action? notice.action with
  | none =>
    have ha' : other.book.action? notice.action = none := by
      have same := but.alike.plans notice.action
      rw [RuleBook.plan?, RuleBook.plan?, ha] at same
      exact Option.map_eq_none_iff.1 same
    simp only [Sequential.act, ha, ha', Option.filter_none]
    exact ⟨but, trivial, .refl _⟩
  | some a =>
    obtain ⟨a', ha', plan⟩ := but.alike.exists_action ha
    cases active : notice.active with
    | false =>
      simp only [Sequential.act, ha, ha', active, Option.filter_some, Bool.false_eq_true, if_false]
      exact ⟨but, trivial, .refl _⟩
    | true =>
      obtain ⟨but', same⟩ := but.execute behavior ha ha' plan force pauses pauses'
      simp only [Sequential.act, ha, ha', active, Option.filter_some, if_true]
      have planned : engine.book.plan? notice.action = some a.plan := by
        rw [RuleBook.plan?, ha]
        rfl
      have carries : (Run.ofAction notice.action a force none).Carries a := ⟨rfl, rfl, rfl⟩
      exact ⟨but', Notice.masked_outcome fun shown => same (tells _ planned shown),
        .of_alone (Run.Alone.execute carries rfl)⟩

theorem AlikeBut.actAll (but : engine.AlikeBut deviceId other) (behavior : DeviceBehavior δ)
    {notices : List Notice}
    (tells : ∀ notice ∈ notices, ∀ plan, engine.book.plan? notice.action = some plan →
      hidden notice.ruleId = false → engine.target? plan ≠ some deviceId)
    (force : Bool) (pauses pauses' : Nat → Nat) :
    (Sequential.actAll (behavior.backend pauses) force engine notices).1.AlikeBut deviceId
        (Sequential.actAll (behavior.backend pauses') force other notices).1 ∧
      (Sequential.actAll (behavior.backend pauses') force other notices).2.map (·.masked hidden)
        = (Sequential.actAll (behavior.backend pauses) force engine notices).2.map
            (·.masked hidden) ∧
      engine.Alike (Sequential.actAll (behavior.backend pauses) force engine notices).1 := by
  induction notices generalizing engine other with
  | nil => exact ⟨but, rfl, .refl _⟩
  | cons notice rest ih =>
    obtain ⟨but', outcome, alike⟩ :=
      but.act behavior (tells notice List.mem_cons_self) force pauses pauses'
    obtain ⟨but'', outcomes, alike'⟩ := ih but' fun notice told plan known => by
      rw [alike.plans] at known
      rw [alike.target?]
      exact tells notice (List.mem_cons_of_mem _ told) plan known
    refine ⟨but'', ?_, alike.trans alike'⟩
    rw [Sequential.actAll, Sequential.actAll, List.map_cons, List.map_cons, outcome]
    exact congrArg _ outcomes

/-- A snapshot does to the events of both engines the same, and sets off the same. -/
theorem AlikeBut.dispatch (but : engine.AlikeBut deviceId other) (behavior : DeviceBehavior δ)
    (sound : engine.book.Sound)
    (tells : engine.Tells hidden deviceId) (pauses pauses' : Nat → Nat) (snapshot : Json) :
    (Sequential.dispatch engine (behavior.backend pauses) snapshot).1.AlikeBut deviceId
        (Sequential.dispatch other (behavior.backend pauses') snapshot).1 ∧
      maskReport hidden (Sequential.dispatch other (behavior.backend pauses') snapshot).2
        = maskReport hidden
            (Sequential.dispatch engine (behavior.backend pauses) snapshot).2 ∧
      (Sequential.dispatch engine (behavior.backend pauses) snapshot).1.book.Sound ∧
      (Sequential.dispatch engine (behavior.backend pauses) snapshot).1.Tells hidden deviceId := by
  obtain ⟨engine', result, observes⟩ : ∃ engine' result,
      engine.observe snapshot = (engine', result) := ⟨_, _, rfl⟩
  obtain ⟨other', observes', alike'⟩ := but.alike.observe observes
  have sound' := sound_observe sound observes
  have tells' : engine'.Tells hidden deviceId := by
    obtain ⟨readings, rfl⟩ := exists_after_of_observe sound observes
    exact tells.after readings
  have but' : engine'.AlikeBut deviceId other' :=
    ⟨alike', fun d hd => by rw [cell_observe observes, cell_observe observes', but.cells d hd]⟩
  unfold Sequential.dispatch
  rw [observes, observes']
  cases result with
  | error e => exact ⟨but', rfl, sound', tells'⟩
  | ok events =>
    have registered := registered_of_observe sound observes
    obtain ⟨but'', outcomes, alike⟩ :=
      but'.actAll behavior (tells'.notices registered) false pauses pauses'
    dsimp only
    rw [alike'.notices]
    exact ⟨but'', congrArg Except.ok outcomes, alike.sound sound', alike.tells tells'⟩

/-- So do snapshots one after the other. -/
theorem AlikeBut.dispatchAll (but : engine.AlikeBut deviceId other) (behavior : DeviceBehavior δ)
    (sound : engine.book.Sound) (tells : engine.Tells hidden deviceId) (pauses pauses' : Nat → Nat)
    (snapshots : List Json) :
    (Sequential.dispatchAll (behavior.backend pauses) engine snapshots).1.AlikeBut deviceId
        (Sequential.dispatchAll (behavior.backend pauses') other snapshots).1 ∧
      (Sequential.dispatchAll (behavior.backend pauses') other snapshots).2.map
          (maskReport hidden)
        = (Sequential.dispatchAll (behavior.backend pauses) engine snapshots).2.map
            (maskReport hidden) := by
  induction snapshots generalizing engine other with
  | nil => exact ⟨but, rfl⟩
  | cons snapshot rest ih =>
    obtain ⟨but', result, sound', tells'⟩ :=
      but.dispatch behavior sound tells pauses pauses' snapshot
    obtain ⟨but'', results⟩ := ih but' sound' tells'
    refine ⟨but'', ?_⟩
    rw [Sequential.dispatchAll, Sequential.dispatchAll, List.map_cons, List.map_cons, result]
    exact congrArg _ results

end Engine

end HomeAutomation
