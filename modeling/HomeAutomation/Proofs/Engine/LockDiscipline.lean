/-
  HomeAutomation.Proofs.Engine.LockDiscipline

  Who holds which lock.  The line of a lock names exactly the tasks that have
  asked for it and not given it up, each of them once, and a task that has
  gone past the lock stands at the head of the line.  Hence at most one run at
  a time deals with a device, and at most one snapshot is being dispatched.

  `Lock.Kept` says this of one lock in terms of two properties of tasks, to
  claim the lock and to be inside.  A step of a task is one of three moves: it
  keeps its claim, asks for the lock, or gives it up.
-/

import HomeAutomation.Proofs.Engine.Frame

namespace HomeAutomation

variable {σ : Type}

-- ============================================================================
-- One lock
-- ============================================================================

namespace Lock

/-- The line names those who claim the lock, and who is inside holds it. -/
structure Kept (lock : Lock) (claims inside : Nat → Prop) : Prop where
  mem_line : ∀ id, id ∈ lock.line ↔ claims id
  nodup_line : lock.line.Nodup
  inside_holds : ∀ id, inside id → lock.line.head? = some id

variable {lock : Lock} {claims inside claims' inside' : Nat → Prop} {self : Nat}

theorem Kept.congr (kept : lock.Kept claims inside) (hclaims : ∀ id, claims' id ↔ claims id)
    (hinside : ∀ id, inside' id → inside id ∨ lock.line.head? = some id) :
    lock.Kept claims' inside' where
  mem_line id := (kept.mem_line id).trans (hclaims id).symm
  nodup_line := kept.nodup_line
  inside_holds id h := (hinside id h).elim (kept.inside_holds id) fun held => held

theorem Kept.acquire (kept : lock.Kept claims inside) (free : ¬ claims self)
    (hclaims : ∀ id, claims' id ↔ claims id ∨ id = self)
    (hinside : ∀ id, inside' id → inside id) : (lock.acquire self).Kept claims' inside' where
  mem_line id := by simp [Lock.acquire, kept.mem_line, hclaims]
  nodup_line := by
    have hself : self ∉ lock.line := fun h => free ((kept.mem_line self).1 h)
    simpa [Lock.acquire, List.nodup_append] using
      ⟨kept.nodup_line, fun id hid heq => hself (heq ▸ hid)⟩
  inside_holds id h := by simp [Lock.acquire, kept.inside_holds id (hinside id h)]

theorem Kept.release (kept : lock.Kept claims inside) (held : lock.line.head? = some self)
    (hclaims : ∀ id, claims' id ↔ claims id ∧ id ≠ self)
    (hinside : ∀ id, inside' id → inside id ∧ id ≠ self) : lock.release.Kept claims' inside' := by
  obtain ⟨rest, hline⟩ := List.head?_eq_some_iff.1 held
  have hnodup := kept.nodup_line
  rw [hline, List.nodup_cons] at hnodup
  refine ⟨fun id => ?_, ?_, fun id h => ?_⟩
  · rw [hclaims, ← kept.mem_line, hline]
    constructor
    · intro h
      have hid : id ∈ rest := by simpa [Lock.release, hline] using h
      exact ⟨List.mem_cons_of_mem _ hid, fun heq => hnodup.1 (heq ▸ hid)⟩
    · rintro ⟨h, hne⟩
      simpa [Lock.release, hline, hne] using h
  · simpa [Lock.release, hline] using hnodup.2
  · -- whoever was inside held the lock, so nobody else was
    obtain ⟨hin, hne⟩ := hinside id h
    exact absurd (Option.some.inj ((kept.inside_holds id hin).symm.trans held)) hne

/-- Two tasks inside are one. -/
theorem Kept.inside_unique (kept : lock.Kept claims inside) {id other : Nat} (h : inside id)
    (h' : inside other) : id = other :=
  Option.some.inj ((kept.inside_holds id h).symm.trans (kept.inside_holds other h'))

theorem Kept.line_eq_nil (kept : lock.Kept claims inside) (h : ∀ id, ¬ claims id) :
    lock.line = [] :=
  List.eq_nil_iff_forall_not_mem.2 fun id hid => h id ((kept.mem_line id).1 hid)

end Lock

namespace LockTable

theorem heldBy_iff {locks : LockTable} {name : String} {task : Nat} :
    locks.heldBy name task = true ↔ (locks.lock name).line.head? = some task := by
  simp [heldBy, Lock.heldBy, Lock.holder?]

theorem lock_acquire (locks : LockTable) (name other : String) (task : Nat) :
    (locks.acquire name task).lock other
      = if name = other then (locks.lock other).acquire task else locks.lock other := by
  unfold acquire lock
  split
  · rename_i h
    subst h
    rw [Table.get?_set_self]
    rfl
  · rename_i h
    rw [Table.get?_set_ne _ _ (Ne.symm h)]

theorem lock_release (locks : LockTable) (name other : String) :
    (locks.release name).1.lock other
      = if name = other then (locks.lock other).release else locks.lock other := by
  unfold release lock
  split
  · rename_i h
    subst h
    rw [Table.get?_set_self]
    rfl
  · rename_i h
    rw [Table.get?_set_ne _ _ (Ne.symm h)]

end LockTable

-- ============================================================================
-- Moves of a run
-- ============================================================================

namespace Run

/-- The device whose lock a run has asked for and not given up. -/
def claim? (run : Run) : Option String := run.target?.map (·.deviceId)

/-- What a step of a run does to the locks. -/
inductive LockMove (self : Nat) (locks : LockTable) (run : Run) : LockTable → Run → Prop
  | keep {run' : Run} (claim : run'.claim? = run.claim?)
      (inside : run'.isInside = true →
        run.isInside = true ∨ ∃ d, run.claim? = some d ∧ locks.heldBy d self = true) :
      LockMove self locks run locks run'
  | ask {run' : Run} {d : String} (free : run.claim? = none) (claim : run'.claim? = some d)
      (outside : run'.isInside = false) :
      LockMove self locks run (locks.acquire d self) run'
  | leave {run' : Run} {d : String} (claim : run.claim? = some d) (free : run'.claim? = none)
      (held : run.isInside = true ∨ locks.heldBy d self = true) :
      LockMove self locks run (locks.release d).1 run'

variable {run : Run} {backend : Backend σ} {self : Nat} {engine : Engine σ} {locks : LockTable}
  {step : RunStep σ}

theorem Proceeds.lockMove (h : run.Proceeds backend self engine locks step) :
    LockMove self locks run step.locks step.run := by
  cases h with
  | unmapped phase =>
    exact .keep (by simp [claim?, target?, enter, phase]) (by simp [isInside, enter])
  | ask phase =>
    exact .ask (by simp [claim?, target?, phase]) (by simp [claim?, target?, enter])
      (by simp [isInside, enter])
  | begin phase held =>
    exact .keep (by simp [claim?, target?, enter, phase])
      fun _ => .inr ⟨_, by simp [claim?, target?, phase], held⟩
  | skip phase held =>
    exact .leave (by simp [claim?, target?, phase]) (by simp [claim?, target?, Run.leave, enter])
      (.inr held)
  | read phase | restore phase =>
    exact .keep (by simp [claim?, target?, enter, phase]) fun _ => .inl (by simp [isInside, phase])
  | accept phase | restored phase =>
    exact .keep (by simp [claim?, target?, Run.accept, enter, phase])
      fun _ => .inl (by simp [isInside, phase])
  | abandon phase | unrestored phase | save phase =>
    exact .leave (by simp [claim?, target?, phase])
      (by simp [claim?, target?, close, Run.leave, enter]) (.inl (by simp [isInside, phase]))

/-- A run that is inside after a step claimed its device before. -/
theorem Proceeds.claim?_of_isInside (h : run.Proceeds backend self engine locks step)
    (inside : step.run.isInside = true) {d : String} (claim : step.run.claim? = some d) :
    run.claim? = some d := by
  have move := h.lockMove
  generalize step.locks = locks' at move
  cases move with
  | keep same => exact same ▸ claim
  | ask _ _ outside => simp [outside] at inside
  | leave _ free => simp [free] at claim

end Run

-- ============================================================================
-- All locks
-- ============================================================================

namespace Task

/-- The device whose lock a task has asked for and not given up. -/
def claim? : Task → Option String
  | run r => r.claim?
  | dispatch _ => none

/-- Whether a task has passed the lock of a device and has not given it up. -/
def isInside : Task → Bool
  | run r => r.isInside
  | dispatch _ => false

/-- Whether a task has asked for the snapshot lock and not given it up. -/
def isInLine : Task → Bool
  | dispatch ⟨_, .queued⟩ => true
  | dispatch ⟨_, .gathering _⟩ => true
  | _ => false

/-- Whether a task is dispatching its snapshot. -/
def isOpen : Task → Bool
  | dispatch ⟨_, .gathering _⟩ => true
  | _ => false

end Task

namespace Activity

/-- The device that the task of a number claims. -/
def claim? (activity : Activity σ) (id : Nat) : Option String :=
  activity.tasks[id]?.bind Task.claim?

/-- Whether the task of a number has a property. -/
def has (activity : Activity σ) (p : Task → Bool) (id : Nat) : Bool := activity.tasks[id]?.any p

/-- The locks of devices are held by the runs that are inside. -/
def LocksKept (activity : Activity σ) : Prop :=
  ∀ d, (activity.locks.lock d).Kept (activity.claim? · = some d)
    fun id => activity.has Task.isInside id = true ∧ activity.claim? id = some d

/-- The snapshot lock is held by the dispatch whose turn it is. -/
def TurnsKept (activity : Activity σ) : Prop :=
  activity.snapshotLock.Kept (activity.has Task.isInLine · = true)
    (activity.has Task.isOpen · = true)

/-- After a change of one task that task is new and the others are as before. -/
theorem getElem?_set_task {tasks : List Task} {self : Nat} {old : Task}
    (h : tasks[self]? = some old) (new : Task) (id : Nat) :
    (tasks.set self new)[id]? = if id = self then some new else tasks[id]? := by
  have hself := (List.getElem?_eq_some_iff.1 h).1
  by_cases hid : id = self
  · subst hid
    simp [hself]
  · rw [if_neg hid, List.getElem?_set_ne (Ne.symm hid)]

/-- Tasks that do not have a property join without being noticed. -/
theorem any_getElem?_append (tasks : List Task) {fresh : List Task} {p : Task → Bool}
    (h : ∀ task ∈ fresh, p task = false) (id : Nat) :
    (tasks ++ fresh)[id]?.any p = tasks[id]?.any p := by
  rcases Nat.lt_or_ge id tasks.length with hid | hid
  · rw [List.getElem?_append_left hid]
  · rw [List.getElem?_append_right hid, List.getElem?_eq_none hid]
    cases ht : fresh[id - tasks.length]? with
    | none => rfl
    | some task => simpa using h task (List.mem_of_getElem? ht)

/-- Tasks that claim no device join without being noticed. -/
theorem bind_getElem?_append (tasks : List Task) {fresh : List Task}
    (h : ∀ task ∈ fresh, task.claim? = none) (id : Nat) :
    (tasks ++ fresh)[id]?.bind Task.claim? = tasks[id]?.bind Task.claim? := by
  rcases Nat.lt_or_ge id tasks.length with hid | hid
  · rw [List.getElem?_append_left hid]
  · rw [List.getElem?_append_right hid, List.getElem?_eq_none hid]
    cases ht : fresh[id - tasks.length]? with
    | none => rfl
    | some task => simpa using h task (List.mem_of_getElem? ht)

/-- The runs of a fan-out are those of actions that the rules know. -/
theorem mem_slotsOf_runs {book : RuleBook} {force : Bool} {parent : Option Nat} {first : Nat}
    {notices : List Notice} {run : Run}
    (h : run ∈ (slotsOf book force parent first notices).2) :
    ∃ id a, book.action? id = some a ∧ run = .ofAction id a force parent := by
  induction notices generalizing first with
  | nil => simp [slotsOf] at h
  | cons notice rest ih =>
    unfold slotsOf at h
    split at h
    · rename_i a ha
      rcases List.mem_cons.1 h with rfl | h
      · exact ⟨notice.action, a, (Option.filter_eq_some_iff.1 ha).1, rfl⟩
      · exact ih h
    · exact ih h

variable {backend : Backend σ} {activity next : Activity σ} {self : Nat}

/-- The invariant is about the locks, the claims and who is inside only. -/
theorem LocksKept.congr (kept : activity.LocksKept) (locks : next.locks = activity.locks)
    (claim : ∀ id, next.claim? id = activity.claim? id)
    (inside : ∀ id, next.has Task.isInside id = activity.has Task.isInside id) :
    next.LocksKept := by
  intro d
  rw [locks]
  exact (kept d).congr (fun id => by rw [claim]) fun id h => .inl (by rwa [← claim, ← inside])

theorem TurnsKept.congr (kept : activity.TurnsKept)
    (lock : next.snapshotLock = activity.snapshotLock)
    (inLine : ∀ id, next.has Task.isInLine id = activity.has Task.isInLine id)
    (isOpen : ∀ id, next.has Task.isOpen id = activity.has Task.isOpen id) :
    next.TurnsKept := by
  unfold TurnsKept
  rw [lock]
  exact Lock.Kept.congr kept (fun id => by rw [inLine]) fun id h => .inl (by rwa [← isOpen])

theorem has_set {p : Task → Bool} {old new : Task} (task : activity.tasks[self]? = some old)
    (tasks : next.tasks = activity.tasks.set self new) (id : Nat) :
    next.has p id = if id = self then p new else activity.has p id := by
  simp only [has, tasks, getElem?_set_task task]
  split <;> simp

theorem claim?_set {old new : Task} (task : activity.tasks[self]? = some old)
    (tasks : next.tasks = activity.tasks.set self new) (id : Nat) :
    next.claim? id = if id = self then new.claim? else activity.claim? id := by
  simp only [claim?, tasks, getElem?_set_task task]
  split <;> simp

/-- A change of one task that keeps its claim keeps the invariant. -/
theorem LocksKept.set (kept : activity.LocksKept) {old new : Task}
    (task : activity.tasks[self]? = some old) (tasks : next.tasks = activity.tasks.set self new)
    (locks : next.locks = activity.locks) (claim : new.claim? = old.claim?)
    (inside : new.isInside = old.isInside) : next.LocksKept := by
  refine kept.congr locks (fun id => ?_) fun id => ?_
  · rw [claim?_set task tasks]
    split
    · rename_i h
      simp [h, Activity.claim?, task, claim]
    · rfl
  · rw [has_set task tasks]
    split
    · rename_i h
      simp [h, has, task, inside]
    · rfl

/-- Tasks that have not begun keep the invariant. -/
theorem LocksKept.append (kept : activity.LocksKept) {fresh : List Task}
    (tasks : next.tasks = activity.tasks ++ fresh) (locks : next.locks = activity.locks)
    (unbegun : ∀ task ∈ fresh, task.claim? = none ∧ task.isInside = false) :
    next.LocksKept := by
  refine kept.congr locks (fun id => ?_) fun id => ?_
  · simp only [Activity.claim?, tasks]
    exact bind_getElem?_append _ (fun task h => (unbegun task h).1) id
  · simp only [has, tasks]
    exact any_getElem?_append _ (fun task h => (unbegun task h).2) id

/-- A lock that a run claims neither before nor after a change of its own. -/
theorem LocksKept.elsewhere (kept : activity.LocksKept) {run run' : Run}
    (task : activity.tasks[self]? = some (.run run))
    (tasks : next.tasks = activity.tasks.set self (.run run')) {d : String}
    (before : run.claim? ≠ some d) (after : run'.claim? ≠ some d) :
    (activity.locks.lock d).Kept (next.claim? · = some d)
      fun id => next.has Task.isInside id = true ∧ next.claim? id = some d := by
  have hclaim : activity.claim? self = run.claim? := by simp [Activity.claim?, task, Task.claim?]
  refine (kept d).congr (fun id => ?_) fun id h => ?_
  · rw [claim?_set task tasks]
    split
    · rename_i hid
      rw [hid, hclaim]
      exact iff_of_false after before
    · rfl
  · rw [claim?_set task tasks, has_set task tasks] at h
    split at h
    · exact absurd h.2 after
    · exact .inl h

theorem LocksKept.lockMove (kept : activity.LocksKept) {run run' : Run}
    (task : activity.tasks[self]? = some (.run run))
    (tasks : next.tasks = activity.tasks.set self (.run run'))
    (move : run.LockMove self activity.locks next.locks run') : next.LocksKept := by
  have hclaim : activity.claim? self = run.claim? := by simp [Activity.claim?, task, Task.claim?]
  have hinside : activity.has Task.isInside self = run.isInside := by
    simp [has, task, Task.isInside]
  have hclaims := claim?_set task tasks
  have hinsides := has_set (p := Task.isInside) task tasks
  simp only [Task.claim?, Task.isInside] at hclaims hinsides
  generalize hl : next.locks = locks at move
  intro d
  rw [hl]
  cases move with
  | keep claim enters =>
    refine (kept d).congr (fun id => ?_) fun id h => ?_
    · rw [hclaims]
      split
      · rename_i hid
        rw [hid, hclaim, claim]
      · rfl
    · rw [hclaims, hinsides] at h
      split at h
      · rename_i hid
        subst hid
        rcases enters h.1 with hin | ⟨d', hd', held⟩
        · exact .inl ⟨hinside.trans hin, by rw [hclaim, ← claim, h.2]⟩
        · obtain rfl : d' = d := Option.some.inj (hd'.symm.trans (claim ▸ h.2))
          exact .inr (LockTable.heldBy_iff.1 held)
      · exact .inl h
  | @ask _ d₀ free claim outside =>
    rw [LockTable.lock_acquire]
    split
    · rename_i hd
      subst hd
      refine (kept d₀).acquire (by simp [hclaim, free]) (fun id => ?_) fun id h => ?_
      · rw [hclaims]
        split <;> simp [*]
      · rw [hclaims, hinsides] at h
        split at h
        · simp [outside] at h
        · exact h
    · rename_i hd
      exact kept.elsewhere task tasks (by simp [free]) (by simpa [claim] using hd)
  | @leave _ d₀ claim free held =>
    have head : (activity.locks.lock d₀).line.head? = some self := by
      rcases held with hin | held
      · exact (kept d₀).inside_holds self ⟨hinside.trans hin, hclaim.trans claim⟩
      · exact LockTable.heldBy_iff.1 held
    rw [LockTable.lock_release]
    split
    · rename_i hd
      subst hd
      refine (kept d₀).release head (fun id => ?_) fun id h => ?_
      · rw [hclaims]
        split <;> simp [*]
      · rw [hclaims, hinsides] at h
        split at h
        · simp [free] at h
        · exact ⟨h, ‹_›⟩
    · rename_i hd
      exact kept.elsewhere task tasks (by simpa [claim] using hd) (by simp [free])

-- ============================================================================
-- Steps and requests
-- ============================================================================

/-- What a request starts has not begun. -/
theorem Request.task?_unbegun {request : Request} {book : RuleBook} {task : Task}
    (h : task ∈ (request.task? book).toList) :
    task.claim? = none ∧ task.isInside = false ∧ task.isInLine = false ∧ task.isOpen = false := by
  cases request with
  | process snapshot =>
    obtain rfl : task = .dispatch { snapshot } := by simpa [Request.task?] using h
    exact ⟨rfl, rfl, rfl, rfl⟩
  | execute action force =>
    obtain ⟨a, -, rfl⟩ : ∃ a, book.action? action = some a ∧
        Task.run (.ofAction action a force none) = task := by simpa [Request.task?] using h
    exact ⟨rfl, rfl, rfl, rfl⟩
  | _ => simp [Request.task?] at h

/-- The runs of a fan-out have not begun. -/
theorem slotsOf_unbegun {book : RuleBook} {force : Bool} {parent : Option Nat} {first : Nat}
    {notices : List Notice} {slots : List Slot} {runs : List Run} {task : Task}
    (fans : slotsOf book force parent first notices = (slots, runs))
    (h : task ∈ runs.map Task.run) :
    task.claim? = none ∧ task.isInside = false ∧ task.isInLine = false ∧ task.isOpen = false := by
  obtain ⟨run, hrun, rfl⟩ := List.mem_map.1 h
  obtain ⟨id, a, -, rfl⟩ := mem_slotsOf_runs (by rw [fans]; exact hrun)
  exact ⟨rfl, rfl, rfl, rfl⟩

theorem LocksKept.step (kept : activity.LocksKept) (h : activity.Advances backend self next) :
    next.LocksKept := by
  cases h with
  | pause task => exact kept.set task rfl rfl rfl rfl
  | run task idle proceeds => exact kept.lockMove task rfl proceeds.lockMove
  | queue task => exact kept.set task rfl rfl rfl rfl
  | refuse task => exact kept.set task rfl rfl rfl rfl
  | gather task => exact kept.set task rfl rfl rfl rfl
  | @spread snapshot engine events slots runs task held observes fans =>
    have set : LocksKept { activity with
        tasks := activity.tasks.set self (.dispatch ⟨snapshot, .gathering slots⟩) } :=
      kept.set task rfl rfl rfl rfl
    refine set.append rfl rfl fun t ht => ?_
    have := slotsOf_unbegun fans ht
    exact ⟨this.1, this.2.1⟩

theorem TurnsKept.append (kept : activity.TurnsKept) {fresh : List Task}
    (tasks : next.tasks = activity.tasks ++ fresh)
    (lock : next.snapshotLock = activity.snapshotLock)
    (unbegun : ∀ task ∈ fresh, task.isInLine = false ∧ task.isOpen = false) :
    next.TurnsKept := by
  refine kept.congr lock (fun id => ?_) fun id => ?_
  · simp only [has, tasks]
    exact any_getElem?_append _ (fun task h => (unbegun task h).1) id
  · simp only [has, tasks]
    exact any_getElem?_append _ (fun task h => (unbegun task h).2) id

/-- A task that leaves the line hands the snapshot lock on. -/
theorem TurnsKept.release (kept : activity.TurnsKept) {old new : Task}
    (task : activity.tasks[self]? = some old) (tasks : next.tasks = activity.tasks.set self new)
    (lock : next.snapshotLock = activity.snapshotLock.release)
    (held : activity.snapshotLock.line.head? = some self) (out : new.isInLine = false)
    (shut : new.isOpen = false) : next.TurnsKept := by
  unfold TurnsKept
  rw [lock]
  refine Lock.Kept.release kept held (fun id => ?_) fun id h => ?_
  · rw [has_set task tasks]
    split <;> simp [*]
  · rw [has_set task tasks] at h
    split at h
    · simp [shut] at h
    · exact ⟨h, ‹_›⟩

theorem TurnsKept.step (kept : activity.TurnsKept) (h : activity.Advances backend self next) :
    next.TurnsKept := by
  cases h with
  | pause task | run task =>
    refine kept.congr rfl (fun id => ?_) fun id => ?_ <;>
    · rw [has_set task rfl]
      split
      · rename_i hid
        simp [hid, has, task, Task.isInLine, Task.isOpen]
      · rfl
  | queue task =>
    refine Lock.Kept.acquire kept (by simp [has, task, Task.isInLine]) (fun id => ?_) fun id h => ?_
    · rw [has_set task rfl]
      split <;> simp [*, Task.isInLine]
    · rw [has_set task rfl] at h
      split at h
      · simp [Task.isOpen] at h
      · exact h
  | refuse task held =>
    exact kept.release task rfl rfl (by simpa [Lock.heldBy, Lock.holder?] using held) rfl rfl
  | gather task =>
    have held := kept.inside_holds self (by simp [has, task, Task.isOpen])
    exact kept.release task rfl rfl held rfl rfl
  | @spread snapshot engine events slots runs task held observes fans =>
    have set : TurnsKept { activity with
        tasks := activity.tasks.set self (.dispatch ⟨snapshot, .gathering slots⟩) } := by
      refine Lock.Kept.congr kept (fun id => ?_) fun id h => ?_
      · rw [has_set task rfl]
        split
        · rename_i hid
          simp [hid, has, task, Task.isInLine]
        · rfl
      · rw [has_set task rfl] at h
        split at h
        · rename_i hid
          exact .inr (by simpa [hid, Lock.heldBy, Lock.holder?] using held)
        · exact .inl h
    refine set.append rfl rfl fun t ht => ?_
    have := slotsOf_unbegun fans ht
    exact ⟨this.2.2.1, this.2.2.2⟩

namespace Reached

variable {initial : Engine σ} {log : List Contact}

/-- The locks of devices are kept in every reachable activity. -/
theorem locksKept (reached : Reached backend initial log activity) : activity.LocksKept := by
  induction reached with
  | start empty =>
    exact fun d =>
      ⟨by simp [LockTable.lock, Activity.claim?], by simp [LockTable.lock], by simp [has]⟩
  | submit request _ ih =>
    refine ih.append rfl rfl fun task h => ?_
    have := Request.task?_unbegun h
    exact ⟨this.1, this.2.1⟩
  | advance _ step ih => exact ih.step step.advances

/-- The snapshot lock is kept in every reachable activity. -/
theorem turnsKept (reached : Reached backend initial log activity) : activity.TurnsKept := by
  induction reached with
  | start empty => exact ⟨by simp [has], by simp, by simp [has]⟩
  | submit request _ ih =>
    refine ih.append rfl rfl fun task h => ?_
    have := Request.task?_unbegun h
    exact ⟨this.2.2.1, this.2.2.2⟩
  | advance _ step ih => exact ih.step step.advances

end Reached

end Activity

end HomeAutomation
