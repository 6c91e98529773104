/-
  HomeAutomation.Proofs.Engine.Visit

  What an execution does at its device, as a visit: nothing but the decision to
  leave the device alone, or a read followed by the command, or a read, the
  command that failed, and the command that restores the state before.

  `Run.Recounts` says what a step of the run that is at a device adds to its
  visit; `Run.Proceeds.recounts` is the case analysis behind every account of
  visits.
-/

import HomeAutomation.Proofs.Engine.LockDiscipline

namespace HomeAutomation

variable {σ : Type}

-- ============================================================================
-- Replies
-- ============================================================================

namespace CommandReply

/-- Whether a device has accepted a command. -/
def isAccepted : CommandReply → Bool
  | answered response => response.success
  | failed _ => false

theorem failure?_eq_none_iff {deviceId : String} {reply : CommandReply} :
    reply.failure? deviceId = none ↔ reply.isAccepted = true := by
  cases reply with
  | answered response => simp [failure?, isAccepted]
  | failed reason => simp [failure?, isAccepted]

theorem restoreFailure?_eq_none_iff {deviceId : String} {reply : CommandReply} :
    reply.restoreFailure? deviceId = none ↔ reply.isAccepted = true := by
  cases reply with
  | answered response => simp [restoreFailure?, isAccepted]
  | failed reason => simp [restoreFailure?, isAccepted]

theorem isAccepted_of_failure? {deviceId : String} {reply : CommandReply} {failure : CallError}
    (h : reply.failure? deviceId = some failure) : reply.isAccepted = false := by
  refine Bool.eq_false_iff.2 fun accepted => ?_
  rw [failure?_eq_none_iff.2 accepted] at h
  cases h

theorem isAccepted_of_restoreFailure? {deviceId : String} {reply : CommandReply} {reason : String}
    (h : reply.restoreFailure? deviceId = some reason) : reply.isAccepted = false := by
  refine Bool.eq_false_iff.2 fun accepted => ?_
  rw [restoreFailure?_eq_none_iff.2 accepted] at h
  cases h

end CommandReply

/-- The state of a device before a command: what the device tells, or else what is recorded. -/
def ReadReply.stateBefore (recorded : Option DeviceState) : ReadReply → Option DeviceState
  | .state s => some s
  | .unknown => recorded
  | .failed _ => recorded

/-- Whether a record says that a device is in a state. -/
def DeviceState.isRecorded (recorded : Option DeviceState) (state : DeviceState) : Bool :=
  recorded.any (·.same state)

theorem Engine.isChangeNeeded_eq (engine : Engine σ) (deviceId : String) (desired : DeviceState) :
    engine.isChangeNeeded deviceId desired
      = !desired.isRecorded (engine.records.get? deviceId) := by
  unfold Engine.isChangeNeeded DeviceState.isRecorded
  cases engine.records.get? deviceId <;> rfl

theorem Engine.readState_eq (engine : Engine σ) (backend : Backend σ) (target : DeviceTarget) :
    (engine.readState backend target).2
      = (backend.read target engine.outside).2.stateBefore
          (engine.records.get? target.deviceId) := by
  unfold Engine.readState
  rcases backend.read target engine.outside with ⟨outside, state | _ | reason⟩ <;> rfl

-- ============================================================================
-- Visits
-- ============================================================================

/-- What an execution does at its device. -/
inductive Course
  /-- It leaves the device alone. -/
  | skipped
  /-- It reads the device and commands it. -/
  | commanded (reply : ReadReply) (answer : CommandReply)
  /-- It reads the device, commands it in vain, and commands the state before. -/
  | rolledBack (reply : ReadReply) (answer : CommandReply) (previous : DeviceState)
      (restoring : CommandReply)

/-- A visit of an execution at its device. -/
structure Visit where
  /-- The run that is the execution. -/
  task : Nat
  force : Bool
  desired : DeviceState
  course : Course

namespace Visit

/-- What is said in a visit. -/
def exchanges (visit : Visit) : List Exchange :=
  match visit.course with
  | .skipped => [.skipped]
  | .commanded reply answer => [.read reply, .command visit.desired answer]
  | .rolledBack reply answer previous restoring =>
    [.read reply, .command visit.desired answer, .command previous restoring]

/-- What is said to a device in a visit. -/
def contacts (deviceId : String) (visit : Visit) : List Contact :=
  visit.exchanges.map (⟨visit.task, deviceId, ·⟩)

/-- The record that a visit leaves. -/
def recordAfter (recorded : Option DeviceState) (visit : Visit) : Option DeviceState :=
  match visit.course with
  | .skipped => recorded
  | .commanded _ answer => if answer.isAccepted then some visit.desired else recorded
  | .rolledBack _ _ previous restoring =>
    if restoring.isAccepted then some previous else recorded

/-- Whether an execution has to change a device with a record. -/
def isDue (force : Bool) (desired : DeviceState) (recorded : Option DeviceState) : Bool :=
  force || !desired.isRecorded recorded

/-- A visit follows from the record it finds.  The device is left alone exactly if it is recorded to
    be in the desired state and the execution is not forced; a command that failed is followed by
    the command of the state before exactly if there is such a state. -/
def Follows (recorded : Option DeviceState) (visit : Visit) : Prop :=
  match visit.course with
  | .skipped => isDue visit.force visit.desired recorded = false
  | .commanded reply answer =>
    isDue visit.force visit.desired recorded = true ∧
      (answer.isAccepted = true ∨ reply.stateBefore recorded = none)
  | .rolledBack reply answer previous _ =>
    isDue visit.force visit.desired recorded = true ∧
      answer.isAccepted = false ∧ reply.stateBefore recorded = some previous

/-- Visits follow from a record one after the other. -/
def Chain : Option DeviceState → List Visit → Prop
  | _, [] => True
  | recorded, visit :: rest => visit.Follows recorded ∧ Chain (visit.recordAfter recorded) rest

theorem chain_append_singleton {recorded : Option DeviceState} {visits : List Visit}
    {visit : Visit} (h : Chain recorded visits)
    (hv : visit.Follows (visits.foldl recordAfter recorded)) :
    Chain recorded (visits ++ [visit]) := by
  induction visits generalizing recorded with
  | nil => exact ⟨hv, trivial⟩
  | cons first rest ih => exact ⟨h.1, ih h.2 hv⟩

end Visit

-- ============================================================================
-- The visit under way
-- ============================================================================

namespace Run

/-- Whether a run is done with what it says to its device. -/
def isDone (run : Run) : Bool :=
  match run.phase with
  | .saving _ _ _ => true
  | .finished _ => true
  | _ => false

/-- What a run inside has said to its device, as long as its visit goes on. -/
inductive Begun (run : Run) (recorded previous : Option DeviceState) : List Exchange → Prop
  | reading {target} (phase : run.phase = .reading target)
      (due : Visit.isDue run.force run.desired recorded = true) : Begun run recorded previous []
  | commanding {target reply} (phase : run.phase = .commanding target)
      (due : Visit.isDue run.force run.desired recorded = true)
      (noted : previous = ReadReply.stateBefore recorded reply) :
      Begun run recorded previous [.read reply]
  | restoring {target failure state reply answer}
      (phase : run.phase = .restoring target failure state)
      (due : Visit.isDue run.force run.desired recorded = true)
      (refused : answer.isAccepted = false)
      (before : ReadReply.stateBefore recorded reply = some state) :
      Begun run recorded previous [.read reply, .command run.desired answer]
  | saving {target state result} (phase : run.phase = .saving target state result) :
      Begun run recorded previous []

section Inversion

variable {run : Run} {recorded previous : Option DeviceState} {said : List Exchange}
  {target : DeviceTarget}

theorem Begun.isInside (begun : run.Begun recorded previous said) : run.isInside = true := by
  cases begun <;> simp [Run.isInside, *]

theorem Begun.of_reading (begun : run.Begun recorded previous said)
    (phase : run.phase = .reading target) :
    said = [] ∧ Visit.isDue run.force run.desired recorded = true := by
  cases begun with
  | reading _ due => exact ⟨rfl, due⟩
  | commanding phase' | restoring phase' | saving phase' => cases phase.symm.trans phase'

theorem Begun.of_commanding (begun : run.Begun recorded previous said)
    (phase : run.phase = .commanding target) :
    ∃ reply, said = [.read reply] ∧ Visit.isDue run.force run.desired recorded = true ∧
      previous = ReadReply.stateBefore recorded reply := by
  cases begun with
  | commanding _ due noted => exact ⟨_, rfl, due, noted⟩
  | reading phase' | restoring phase' | saving phase' => cases phase.symm.trans phase'

theorem Begun.of_restoring (begun : run.Begun recorded previous said) {failure : CallError}
    {state : DeviceState} (phase : run.phase = .restoring target failure state) :
    ∃ reply answer, said = [.read reply, .command run.desired answer] ∧
      Visit.isDue run.force run.desired recorded = true ∧ answer.isAccepted = false ∧
      ReadReply.stateBefore recorded reply = some state := by
  cases begun with
  | restoring phase' due refused before =>
    cases phase.symm.trans phase'
    exact ⟨_, _, rfl, due, refused, before⟩
  | reading phase' | commanding phase' | saving phase' => cases phase.symm.trans phase'

theorem Begun.of_saving (begun : run.Begun recorded previous said) {state : DeviceState}
    {result : Except ExecuteError ExecuteResult}
    (phase : run.phase = .saving target state result) : said = [] := by
  cases begun with
  | saving => rfl
  | reading phase' | commanding phase' | restoring phase' => cases phase.symm.trans phase'

end Inversion

theorem isNeeded_eq_isDue (run : Run) (engine : Engine σ) (target : DeviceTarget) :
    run.isNeeded engine target
      = Visit.isDue run.force run.desired (engine.records.get? target.deviceId) := by
  rw [isNeeded, Visit.isDue, Engine.isChangeNeeded_eq]

-- ============================================================================
-- Steps of a visit
-- ============================================================================

/-- How a step of the run at a device goes with what has been said since the last visit.  The visit
    goes on; or it is complete, and the run leaves or has yet to save a state; or the run leaves
    with nothing said since. -/
inductive Recounts (self : Nat) (deviceId : String) (engine after : Engine σ) (run run' : Run)
    (said : List Exchange) : Prop
  | goesOn (record : after.records.get? deviceId = engine.records.get? deviceId)
      (begun : run'.Begun (after.records.get? deviceId) (after.book.previous? run'.action) said) :
      Recounts self deviceId engine after run run' said
  | completes (course : Course)
      (whole : said = Visit.exchanges ⟨self, run.force, run.desired, course⟩)
      (follows : Visit.Follows (engine.records.get? deviceId)
        ⟨self, run.force, run.desired, course⟩)
      (record : after.records.get? deviceId
        = Visit.recordAfter (engine.records.get? deviceId) ⟨self, run.force, run.desired, course⟩)
      (busy : run.isDone = false) (done : run'.isDone = true)
      (onward : run'.claim? = none ∨
        run'.Begun (after.records.get? deviceId) (after.book.previous? run'.action) []) :
      Recounts self deviceId engine after run run' said
  | leaves (silent : said = [])
      (record : after.records.get? deviceId = engine.records.get? deviceId)
      (gone : run'.claim? = none) : Recounts self deviceId engine after run run' said

variable {run : Run} {backend : Backend σ} {self : Nat} {engine : Engine σ} {locks : LockTable}
  {step : RunStep σ} {target : DeviceTarget} {said : List Exchange}

/-- What passes between a run and its device in a step. -/
def exchanges (run : Run) (backend : Backend σ) (self : Nat) (engine : Engine σ)
    (locks : LockTable) : List Exchange :=
  (run.contact? backend self engine locks).toList.map (·.exchange)

/-- A step of the run at a device either adds to its visit, completes it, or comes after it. -/
theorem Proceeds.recounts (h : run.Proceeds backend self engine locks step)
    (claimed : run.target? = some target) {action : Action}
    (known : engine.book.action? run.action = some action)
    (silent : run.isInside = false → said = [])
    (begun : run.isInside = true → run.Begun (engine.records.get? target.deviceId)
      (engine.book.previous? run.action) said) :
    Recounts self target.deviceId engine step.engine run step.run
      (said ++ run.exchanges backend self engine locks) := by
  cases h with
  | unmapped phase | ask phase => simp [target?, phase] at claimed
  | @begin found phase held needed =>
    obtain rfl : found = target := by simpa [target?, phase] using claimed
    obtain rfl := silent (by simp [isInside, phase])
    have due : Visit.isDue run.force run.desired (engine.records.get? found.deviceId) = true := by
      rw [← isNeeded_eq_isDue, needed]
    simp only [exchanges, contact?, phase, held, needed]
    exact .goesOn rfl (.reading rfl due)
  | @skip found phase held needless =>
    obtain rfl : found = target := by simpa [target?, phase] using claimed
    obtain rfl := silent (by simp [isInside, phase])
    simp only [exchanges, contact?, phase, held, needless]
    exact .completes .skipped rfl ((isNeeded_eq_isDue run _ found).symm.trans needless) rfl
      (by rw [isDone, phase]) rfl (.inl rfl)
  | @read found phase =>
    obtain rfl : found = target := by simpa [target?, phase] using claimed
    obtain ⟨rfl, due⟩ := (begun (by rw [isInside, phase])).of_reading phase
    have noted : (engine.book.setPrevious run.action
          (engine.readState backend found).2).previous? run.action
        = (backend.read found engine.outside).2.stateBefore
            (engine.records.get? found.deviceId) :=
      (RuleBook.previous?_setPrevious_self known _).trans (Engine.readState_eq ..)
    simp only [exchanges, contact?, phase]
    exact .goesOn rfl (.commanding rfl due noted)
  | @accept found phase accepted =>
    obtain rfl : found = target := by simpa [target?, phase] using claimed
    obtain ⟨reply, rfl, due, -⟩ := (begun (by rw [isInside, phase])).of_commanding phase
    have accepted := CommandReply.failure?_eq_none_iff.1 accepted
    simp only [exchanges, contact?, phase]
    refine .completes (.commanded reply (engine.command backend found run.desired).2) rfl
      ⟨due, .inl accepted⟩ ?_ (by rw [isDone, phase]) rfl (.inr (.saving rfl))
    simp only [Visit.recordAfter, accepted, if_true]
    exact Table.get?_set_self _ _ _
  | @abandon found failure phase failed unknown =>
    obtain rfl : found = target := by simpa [target?, phase] using claimed
    obtain ⟨reply, rfl, due, noted⟩ := (begun (by rw [isInside, phase])).of_commanding phase
    have refused := CommandReply.isAccepted_of_failure? failed
    simp only [exchanges, contact?, phase]
    refine .completes (.commanded reply (engine.command backend found run.desired).2) rfl
      ⟨due, .inr (noted.symm.trans unknown)⟩ ?_ (by rw [isDone, phase]) rfl (.inl rfl)
    simp [Visit.recordAfter, refused, close, leave]
  | @restore found failure state phase failed restorable =>
    obtain rfl : found = target := by simpa [target?, phase] using claimed
    obtain ⟨reply, rfl, due, noted⟩ := (begun (by rw [isInside, phase])).of_commanding phase
    have refused := CommandReply.isAccepted_of_failure? failed
    simp only [exchanges, contact?, phase]
    exact .goesOn rfl (.restoring rfl due refused (noted.symm.trans restorable))
  | @restored found failure state phase accepted =>
    obtain rfl : found = target := by simpa [target?, phase] using claimed
    obtain ⟨reply, answer, rfl, due, refused, before⟩ :=
      (begun (by rw [isInside, phase])).of_restoring phase
    have accepted := CommandReply.restoreFailure?_eq_none_iff.1 accepted
    simp only [exchanges, contact?, phase]
    refine .completes (.rolledBack reply answer state (engine.command backend found state).2) rfl
      ⟨due, refused, before⟩ ?_ (by rw [isDone, phase]) rfl (.inr (.saving rfl))
    simp only [Visit.recordAfter, accepted, if_true]
    exact Table.get?_set_self _ _ _
  | @unrestored found failure state reason phase failed =>
    obtain rfl : found = target := by simpa [target?, phase] using claimed
    obtain ⟨reply, answer, rfl, due, refused, before⟩ :=
      (begun (by rw [isInside, phase])).of_restoring phase
    have rejected := CommandReply.isAccepted_of_restoreFailure? failed
    simp only [exchanges, contact?, phase]
    refine .completes (.rolledBack reply answer state (engine.command backend found state).2) rfl
      ⟨due, refused, before⟩ ?_ (by rw [isDone, phase]) rfl (.inl rfl)
    simp [Visit.recordAfter, rejected, close, leave]
  | @save found state result phase =>
    obtain rfl : found = target := by simpa [target?, phase] using claimed
    obtain rfl := (begun (by rw [isInside, phase])).of_saving phase
    refine .leaves ?_ ?_ rfl
    · simp [exchanges, contact?, phase]
    · simp [close, leave]

end Run

end HomeAutomation
