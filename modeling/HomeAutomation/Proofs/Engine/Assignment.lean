/-
  HomeAutomation.Proofs.Engine.Assignment

  Which run carries out which action on which device.  A run is made for an
  action and keeps its device, so two runs of one action deal with the same
  device and are kept apart by its lock.  The state that an action would
  restore is noted only while a run of it is inside; with the lock of its
  device free an action has none.
-/

import HomeAutomation.Proofs.Engine.LockDiscipline
import HomeAutomation.Proofs.Engine.RuleBook

namespace HomeAutomation

variable {σ : Type}

-- ============================================================================
-- Changes of the rules
-- ============================================================================

namespace RuleBook

/-- Actions are only ever added, and a new action has nothing to restore. -/
def Extends (book book' : RuleBook) : Prop :=
  ∃ fresh, book'.actions = book.actions ++ fresh ∧ ∀ a ∈ fresh, a.previous = none

namespace Extends

theorem refl (book : RuleBook) : book.Extends book := ⟨[], by simp, by simp⟩

theorem of_eq {book book' : RuleBook} (h : book'.actions = book.actions) : book.Extends book' :=
  ⟨[], by simp [h], by simp⟩

theorem trans {a b c : RuleBook} (h : a.Extends b) (h' : b.Extends c) : a.Extends c := by
  obtain ⟨fresh, hb, hfresh⟩ := h
  obtain ⟨fresh', hc, hfresh'⟩ := h'
  refine ⟨fresh ++ fresh', by rw [hc, hb, List.append_assoc], fun x hx => ?_⟩
  rcases List.mem_append.1 hx with hx | hx
  · exact hfresh x hx
  · exact hfresh' x hx

theorem action?_eq {book book' : RuleBook} (h : book.Extends book') {id : Nat} {a : Action}
    (ha : book.action? id = some a) : book'.action? id = some a := by
  obtain ⟨fresh, hb, -⟩ := h
  rw [action?, hb, List.getElem?_append_left (List.getElem?_eq_some_iff.1 ha).1]
  exact ha

theorem plan?_eq {book book' : RuleBook} (h : book.Extends book') {id : Nat} {p : Action}
    (hp : book.plan? id = some p) : book'.plan? id = some p := by
  obtain ⟨a, ha, rfl⟩ := Option.map_eq_some_iff.1 hp
  simp [plan?, h.action?_eq ha]

theorem previous?_eq {book book' : RuleBook} (h : book.Extends book') (id : Nat) :
    book'.previous? id = book.previous? id := by
  obtain ⟨fresh, hb, hfresh⟩ := h
  unfold previous? action?
  rw [hb]
  rcases Nat.lt_or_ge id book.actions.length with hid | hid
  · rw [List.getElem?_append_left hid]
  · rw [List.getElem?_append_right hid, List.getElem?_eq_none hid]
    cases hx : fresh[id - book.actions.length]? with
    | none => rfl
    | some a => simpa using hfresh a (List.mem_of_getElem? hx)

end Extends

theorem extends_remove (book : RuleBook) (ruleId : String) :
    book.Extends (book.remove ruleId).1 := by
  unfold remove
  split <;> exact .of_eq rfl

theorem extends_enter (book : RuleBook) (ruleId text : String) (rule : Rule) :
    book.Extends (book.enter ruleId text rule).1 := by
  unfold enter
  split
  · exact .refl book
  · exact ⟨[⟨ruleId, rule.action, .ofSpec rule.action, none, false⟩], rfl, by simp⟩

theorem extends_chooseId (book : RuleBook) (id : Option String) :
    book.Extends (book.chooseId id).1 := by
  unfold chooseId
  split
  · split <;> exact .of_eq rfl
  · exact .of_eq rfl

theorem extends_register {book book' : RuleBook} {range : SetPointRange} {text : String}
    {id : Option String} {handle : Handle}
    (h : book.register range text id = .ok (book', handle)) : book.Extends book' := by
  obtain ⟨rule, -, hrule⟩ := exists_of_register h
  have hb : book' = _ := (congrArg Prod.fst hrule).symm
  rw [hb]
  exact ((book.extends_chooseId id).trans (extends_remove _ _)).trans (extends_enter _ _ _ _)

theorem extends_load (book : RuleBook) (range : SetPointRange) (stored : List (String × String)) :
    book.Extends (book.load range stored).1 :=
  load_induction (fun _ _ _ _ _ h hr => h.trans (extends_register hr)) book stored (.refl book)

theorem extends_request (book : RuleBook) (range : SetPointRange) (request : Activity.Request) :
    book.Extends (request.book range book) := by
  cases request with
  | register text id =>
    simp only [Activity.Request.book]
    split
    · exact extends_register ‹_›
    · exact .refl book
  | remove ruleId => exact book.extends_remove ruleId
  | removeHandle handle => exact book.extends_remove handle.ruleId
  | load stored => exact book.extends_load range stored
  | process | execute => exact .refl book

theorem actions_observeReading (r : SensorReading) (book : RuleBook) (triggered ids : List Nat) :
    (observeReading r book triggered ids).1.actions = book.actions := by
  induction ids generalizing book triggered with
  | nil => rfl
  | cons id rest ih =>
    unfold observeReading
    split
    · exact ih book triggered
    · split
      dsimp only
      split
      · rfl
      · exact ih _ _

theorem actions_observe (book : RuleBook) (triggered : List Nat) (readings : List SensorReading) :
    (book.observe triggered readings).1.actions = book.actions := by
  induction readings generalizing book triggered with
  | nil => rfl
  | cons r rest ih =>
    have h := actions_observeReading r book triggered (book.events.matching r.metric r.location)
    unfold observe
    split <;> rename_i heq <;> rw [heq] at h
    · exact h
    · rw [ih]
      exact h

end RuleBook

theorem Engine.extends_observe {engine engine' : Engine σ} {snapshot : Json}
    {result : Except DispatchError (List Nat)}
    (h : engine.observe snapshot = (engine', result)) : engine.book.Extends engine'.book := by
  unfold Engine.observe at h
  split at h <;> cases h
  · exact .refl _
  · exact .of_eq (RuleBook.actions_observe _ _ _)

theorem Engine.directory_observe {engine engine' : Engine σ} {snapshot : Json}
    {result : Except DispatchError (List Nat)}
    (h : engine.observe snapshot = (engine', result)) : engine'.directory = engine.directory := by
  unfold Engine.observe at h
  split at h <;> cases h <;> rfl

theorem Engine.records_observe {engine engine' : Engine σ} {snapshot : Json}
    {result : Except DispatchError (List Nat)}
    (h : engine.observe snapshot = (engine', result)) : engine'.records = engine.records := by
  unfold Engine.observe at h
  split at h <;> cases h <;> rfl

theorem Engine.outside_observe {engine engine' : Engine σ} {snapshot : Json}
    {result : Except DispatchError (List Nat)}
    (h : engine.observe snapshot = (engine', result)) : engine'.outside = engine.outside := by
  unfold Engine.observe at h
  split at h <;> cases h <;> rfl

-- ============================================================================
-- Notes in a step
-- ============================================================================

namespace Run

/-- Whether a run carries out an action of a plan. -/
structure Carries (run : Run) (plan : Action) : Prop where
  location : run.location = plan.spec.location
  kind : run.kind = plan.spec.device
  desired : run.desired = plan.desired

theorem carries_ofAction (id : Nat) (a : Action) (force : Bool) (parent : Option Nat) :
    (Run.ofAction id a force parent).Carries a.plan :=
  ⟨rfl, rfl, rfl⟩

/-- A run inside has a target. -/
theorem exists_target_of_isInside {run : Run} (h : run.isInside = true) :
    ∃ target, run.target? = some target := by
  unfold isInside at h
  unfold target?
  split at h <;> simp_all

variable {run : Run} {backend : Backend σ} {self : Nat} {engine : Engine σ} {locks : LockTable}
  {step : RunStep σ}

/-- A step of a run that stays outside leaves all notes alone; one that stays inside may note a
    state, and one that ends clears it. -/
theorem Proceeds.notes (h : run.Proceeds backend self engine locks step) :
    (run.isInside = false ∧ step.engine.book = engine.book)
      ∨ step.run.isInside = true ∨ step.engine.book.previous? run.action = none := by
  cases h with
  | unmapped phase | ask phase | skip phase => exact .inl ⟨by simp [isInside, phase], rfl⟩
  | begin phase => exact .inl ⟨by simp [isInside, phase], rfl⟩
  | read phase | restore phase => exact .inr (.inl rfl)
  | accept phase | restored phase => exact .inr (.inl rfl)
  | abandon phase | unrestored phase | save phase => exact .inr (.inr previous?_settle_self)

/-- Only a run that is inside changes notes. -/
theorem Proceeds.book_eq_or_isInside (h : run.Proceeds backend self engine locks step) :
    step.engine.book = engine.book ∨ run.isInside = true := by
  cases h with
  | unmapped | ask | skip | begin => exact .inl rfl
  | _ => exact .inr (by simp [isInside, *])

/-- The target of a run is the device that the directory gives. -/
theorem Proceeds.target?_eq (h : run.Proceeds backend self engine locks step)
    {target : DeviceTarget} (ht : step.run.target? = some target) :
    run.target? = some target
      ∨ engine.directory.resolve run.location run.kind.name = .ok target := by
  cases h with
  | ask phase known =>
    obtain rfl : _ = target := Option.some.inj ht
    exact .inr known
  | begin phase | read phase | restore phase | accept phase | restored phase =>
    exact .inl (by rw [← ht]; simp [target?, phase, enter, Run.accept])
  | unmapped phase | skip phase | abandon phase | unrestored phase | save phase =>
    simp [target?, enter, Run.leave, close] at ht

end Run

-- ============================================================================
-- The invariant
-- ============================================================================

namespace Activity

/-- Runs carry out actions on the devices of those, and notes are due to runs inside. -/
structure Assigned (activity : Activity σ) : Prop where
  carries : ∀ {id : Nat} {run : Run}, activity.tasks[id]? = some (.run run) →
    ∃ plan, activity.engine.book.plan? run.action = some plan ∧ run.Carries plan
  resolves : ∀ {id : Nat} {run : Run} {target : DeviceTarget},
    activity.tasks[id]? = some (.run run) →
    run.target? = some target →
    activity.engine.directory.resolve run.location run.kind.name = .ok target
  noted : ∀ {action : Nat} {state : DeviceState},
    activity.engine.book.previous? action = some state →
    ∃ (id : Nat) (run : Run), activity.tasks[id]? = some (.run run) ∧ run.action = action ∧
      run.isInside = true

namespace Assigned

variable {activity next : Activity σ} {backend : Backend σ} {self : Nat}

/-- Changes of the rules and new tasks keep the invariant. -/
theorem extend (assigned : activity.Assigned) (fresh : List Task)
    (directory : next.engine.directory = activity.engine.directory)
    (book : activity.engine.book.Extends next.engine.book)
    (tasks : next.tasks = activity.tasks ++ fresh)
    (made : ∀ run, Task.run run ∈ fresh → ∃ id a force parent,
      activity.engine.book.action? id = some a ∧ run = .ofAction id a force parent) :
    next.Assigned := by
  have hold : ∀ {id : Nat} {run : Run}, next.tasks[id]? = some (.run run) →
      activity.tasks[id]? = some (.run run) ∨ ∃ id a force parent,
        activity.engine.book.action? id = some a ∧ run = .ofAction id a force parent := by
    intro id run h
    rw [tasks] at h
    rcases Nat.lt_or_ge id activity.tasks.length with hid | hid
    · exact .inl (by rwa [List.getElem?_append_left hid] at h)
    · rw [List.getElem?_append_right hid] at h
      exact .inr (made run (List.mem_of_getElem? h))
  refine ⟨fun {id run} h => ?_, fun {id run target} h ht => ?_, fun {action state} h => ?_⟩
  · rcases hold h with h | ⟨id, a, force, parent, ha, rfl⟩
    · obtain ⟨plan, hp, hc⟩ := assigned.carries h
      exact ⟨plan, book.plan?_eq hp, hc⟩
    · exact ⟨a.plan, book.plan?_eq (by simp [RuleBook.plan?, Run.ofAction, ha]),
        Run.carries_ofAction id a force parent⟩
  · rw [directory]
    rcases hold h with h | ⟨id, a, force, parent, ha, rfl⟩
    · exact assigned.resolves h ht
    · cases ht
  · rw [book.previous?_eq] at h
    obtain ⟨id, run, hrun, ha, hi⟩ := assigned.noted h
    refine ⟨id, run, ?_, ha, hi⟩
    rw [tasks, List.getElem?_append_left (List.getElem?_eq_some_iff.1 hrun).1]
    exact hrun

/-- A change of a task that is no run keeps the invariant. -/
theorem set (assigned : activity.Assigned) {old new : Dispatch}
    (task : activity.tasks[self]? = some (.dispatch old))
    (tasks : next.tasks = activity.tasks.set self (.dispatch new))
    (engine : next.engine = activity.engine) : next.Assigned := by
  have hrun : ∀ (id : Nat) (run : Run), next.tasks[id]? = some (.run run)
      ↔ activity.tasks[id]? = some (.run run) := by
    intro id run
    rw [tasks, getElem?_set_task task]
    split
    · rename_i h
      simp [h, task]
    · rfl
  refine ⟨fun h => ?_, fun h ht => ?_, fun {action state} h => ?_⟩
  · rw [engine]
    exact assigned.carries ((hrun _ _).1 h)
  · rw [engine]
    exact assigned.resolves ((hrun _ _).1 h) ht
  · rw [engine] at h
    obtain ⟨id, run, hr, rest⟩ := assigned.noted h
    exact ⟨id, run, (hrun _ _).2 hr, rest⟩

/-- A step of a run keeps the invariant. -/
theorem proceed (assigned : activity.Assigned) {run : Run} {step : RunStep σ}
    (task : activity.tasks[self]? = some (.run run))
    (proceeds : run.Proceeds backend self activity.engine activity.locks step)
    (tasks : next.tasks = activity.tasks.set self (.run step.run))
    (engine : next.engine = step.engine) : next.Assigned := by
  have hrun := proceeds.run_eq
  refine ⟨fun {id r} h => ?_, fun {id r target} h ht => ?_, fun {action state} h => ?_⟩
  · rw [engine, proceeds.plan?_eq]
    rw [tasks, getElem?_set_task task] at h
    split at h
    · obtain rfl : step.run = r := by simpa using h
      obtain ⟨plan, hp, hc⟩ := assigned.carries task
      rw [hrun]
      exact ⟨plan, hp, ⟨hc.location, hc.kind, hc.desired⟩⟩
    · exact assigned.carries h
  · rw [engine, proceeds.directory_eq]
    rw [tasks, getElem?_set_task task] at h
    split at h
    · obtain rfl : step.run = r := by simpa using h
      have hloc : step.run.location = run.location := by rw [hrun]; rfl
      have hkind : step.run.kind = run.kind := by rw [hrun]; rfl
      rw [hloc, hkind]
      exact (proceeds.target?_eq ht).elim (assigned.resolves task) fun known => known
    · exact assigned.resolves h ht
  · rw [engine] at h
    have hself : next.tasks[self]? = some (.run step.run) := by
      rw [tasks, getElem?_set_task task, if_pos rfl]
    have haction : step.run.action = run.action := by rw [hrun]; rfl
    -- a note that is not of this step is due to another run
    have other (hold : activity.engine.book.previous? action = some state)
        (hne : run.action ≠ action ∨ run.isInside = false) :
        ∃ (id : Nat) (r : Run), next.tasks[id]? = some (.run r) ∧ r.action = action ∧
          r.isInside = true := by
      obtain ⟨id, r, hr, ha, hi⟩ := assigned.noted hold
      have hid : id ≠ self := by
        rintro rfl
        obtain rfl : run = r := by simpa [task] using hr
        rcases hne with hne | hne
        · exact hne ha
        · simp [hne] at hi
      exact ⟨id, r, by rw [tasks, getElem?_set_task task, if_neg hid]; exact hr, ha, hi⟩
    by_cases ha : run.action = action
    · rcases proceeds.notes with ⟨outside, hbook⟩ | inside | cleared
      · exact other (hbook ▸ h) (.inr outside)
      · exact ⟨self, step.run, hself, haction.trans ha, inside⟩
      · rw [← ha, cleared] at h
        cases h
    · exact other (by rw [← proceeds.previous?_ne ha]; exact h) (.inl ha)

theorem step (assigned : activity.Assigned) (h : activity.Advances backend self next) :
    next.Assigned := by
  cases h with
  | @pause run pauses task busy =>
    have hrun : ∀ {id : Nat} {r : Run}, (activity.put self (.run { run with pauses })).tasks[id]?
        = some (.run r) → ∃ r', activity.tasks[id]? = some (.run r') ∧ r.action = r'.action ∧
          r.location = r'.location ∧ r.kind = r'.kind ∧ r.desired = r'.desired ∧
          r.phase = r'.phase := by
      intro id r h
      rw [put, getElem?_set_task task] at h
      split at h
      · rename_i hid
        obtain rfl : { run with pauses } = r := by simpa using h
        exact ⟨run, hid ▸ task, rfl, rfl, rfl, rfl, rfl⟩
      · exact ⟨r, h, rfl, rfl, rfl, rfl, rfl⟩
    refine ⟨fun h => ?_, fun {id r target} h ht => ?_, fun {action state} h => ?_⟩
    · obtain ⟨r', hr, ha, hl, hk, hd, -⟩ := hrun h
      obtain ⟨plan, hp, hc⟩ := assigned.carries hr
      exact ⟨plan, ha ▸ hp, ⟨hl.trans hc.location, hk.trans hc.kind, hd.trans hc.desired⟩⟩
    · obtain ⟨r', hr, -, hl, hk, -, hphase⟩ := hrun h
      have ht' : r'.target? = some target := by
        rw [← ht]
        simp only [Run.target?, hphase]
      rw [hl, hk]
      exact assigned.resolves hr ht'
    · obtain ⟨id, r, hr, ha, hi⟩ := assigned.noted h
      by_cases hid : id = self
      · subst hid
        obtain rfl : run = r := by simpa [task] using hr
        exact ⟨id, { run with pauses }, by rw [put, getElem?_set_task task, if_pos rfl], ha, hi⟩
      · exact ⟨id, r, by rw [put, getElem?_set_task task, if_neg hid]; exact hr, ha, hi⟩
  | run task idle proceeds => exact assigned.proceed task proceeds rfl rfl
  | queue task => exact assigned.set task rfl rfl
  | gather task => exact assigned.set task rfl rfl
  | @refuse snapshot engine e task held observes =>
    have set : Assigned (activity.put self (.dispatch ⟨snapshot, .finished (.error e)⟩)) :=
      assigned.set task rfl rfl
    exact set.extend [] (Engine.directory_observe observes)
      (Engine.extends_observe observes) (by simp) (by simp)
  | @spread snapshot engine events slots runs task held observes fans =>
    have set : Assigned (activity.put self (.dispatch ⟨snapshot, .gathering slots⟩)) :=
      assigned.set task rfl rfl
    have seen : Assigned { activity.put self (.dispatch ⟨snapshot, .gathering slots⟩) with
        engine } :=
      set.extend [] (Engine.directory_observe observes)
        (Engine.extends_observe observes) (by simp) (by simp)
    refine seen.extend (runs.map .run) rfl (.refl _) rfl fun r hr => ?_
    obtain ⟨id, a, ha, rfl⟩ := mem_slotsOf_runs (by rw [fans]; simpa using hr)
    exact ⟨id, a, false, some self, ha, rfl⟩

end Assigned

namespace Reached

variable {activity : Activity σ} {backend : Backend σ} {initial : Engine σ} {log : List Contact}

theorem assigned (reached : Reached backend initial log activity) : activity.Assigned := by
  induction reached with
  | start empty => exact ⟨by simp, by simp, by simp [empty, RuleBook.previous?, RuleBook.action?]⟩
  | @submit _ activity request _ ih =>
    refine ih.extend (request.task? activity.engine.book).toList rfl
      (RuleBook.extends_request _ _ request) rfl fun run h => ?_
    cases request with
    | execute action force =>
      obtain ⟨a, ha, rfl⟩ : ∃ a, activity.engine.book.action? action = some a ∧
          Run.ofAction action a force none = run := by simpa [Request.task?] using h
      exact ⟨action, a, force, none, ha, rfl⟩
    | _ => simp [Request.task?] at h
  | advance _ step ih => exact ih.step step.advances

end Reached

end Activity

end HomeAutomation
