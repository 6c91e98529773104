/-
  HomeAutomation.Proofs.Engine.DedupSkip

  When an execution leaves its device alone.  What it relies on is the record,
  and the record is the last state that the device accepted, which need not be
  the last that it was commanded: a command that failed and whose restoring
  command failed too leave the device in a state that nobody knows, and leave
  the record as it was.  An execution that returns to the recorded state after
  that is passed over, although it is due.

  `Activity.Reached.stale_skip_iff` says exactly when this happens.
-/

import Mathlib.Data.List.Induction
import HomeAutomation.Device.House
import HomeAutomation.Proofs.Engine.Acknowledgement
import HomeAutomation.Proofs.Engine.Result

namespace HomeAutomation

variable {σ : Type}

-- ============================================================================
-- Visits that lose track of a device
-- ============================================================================

namespace Visit

/-- The device accepted neither the command of a visit nor the state before. -/
def IsLost (visit : Visit) : Prop :=
  match visit.course with
  | .rolledBack _ answer _ restoring => answer.isAccepted = false ∧ restoring.isAccepted = false
  | _ => False

theorem chain_append_singleton_iff {recorded : Option DeviceState} {visits : List Visit}
    {visit : Visit} :
    Chain recorded (visits ++ [visit])
      ↔ Chain recorded visits ∧ visit.Follows (visits.foldl recordAfter recorded) := by
  induction visits generalizing recorded with
  | nil => simp [Chain]
  | cons first rest ih => simp only [List.cons_append, Chain, ih, List.foldl_cons, and_assoc]

/-- A visit at a device with a record ends with an accepted command, whose state is the new record,
    or it leaves the device alone, or it loses track of it. -/
theorem Follows.cases {recorded state : DeviceState} {visit : Visit}
    (follows : visit.Follows (some recorded)) (after : visit.recordAfter (some recorded) = some state) :
    (∃ reply, visit.commands.getLast? = some (state, reply) ∧ reply.isAccepted = true) ∨
      recorded = state ∧ (visit.course = .skipped ∨ visit.IsLost) := by
  rcases visit with ⟨task, force, desired, _ | ⟨reply, answer⟩ | ⟨reply, answer, previous, restoring⟩⟩
  · exact .inr ⟨Option.some.inj after, .inl rfl⟩
  · cases accepted : answer.isAccepted with
    | true =>
      simp only [recordAfter, accepted, if_true, Option.some.injEq] at after
      exact .inl ⟨answer, by simp [commands, after], accepted⟩
    | false =>
      -- with a record there is always a state to restore
      obtain ⟨-, impossible | impossible⟩ := follows
      · simp [accepted] at impossible
      · cases reply <;> simp [ReadReply.stateBefore] at impossible
  · cases accepted : restoring.isAccepted with
    | true =>
      simp only [recordAfter, accepted, if_true, Option.some.injEq] at after
      exact .inl ⟨restoring, by simp [commands, after], accepted⟩
    | false =>
      simp only [recordAfter, accepted] at after
      exact .inr ⟨by simpa using after, .inr ⟨follows.2.1, accepted⟩⟩

/-- A first visit that leaves a record ends with an accepted command. -/
theorem Follows.cases_unrecorded {state : DeviceState} {visit : Visit}
    (follows : visit.Follows none) (after : visit.recordAfter none = some state) :
    ∃ reply, visit.commands.getLast? = some (state, reply) ∧ reply.isAccepted = true := by
  rw [follows.recordAfter_eq, Option.or_none] at after
  rcases visit with ⟨task, force, desired, _ | ⟨reply, answer⟩ | ⟨reply, answer, previous, restoring⟩⟩
  · cases after
  · cases h : answer.isAccepted <;> simp [acknowledged?, accepted, commands, h] at after ⊢
    exact after
  · have refused : answer.isAccepted = false := follows.2.1
    cases h : restoring.isAccepted <;>
      simp [acknowledged?, accepted, commands, refused, h] at after ⊢
    exact after

/-- A record stems from a visit that ended with an accepted command; since then the device was left
    alone or lost track of. -/
theorem Chain.exists_source {visits : List Visit} {state : DeviceState} (chain : Chain none visits)
    (recorded : visits.foldl recordAfter none = some state) :
    ∃ before source after, visits = before ++ source :: after ∧
      (∃ reply, source.commands.getLast? = some (state, reply) ∧ reply.isAccepted = true) ∧
      ∀ visit ∈ after, visit.course = .skipped ∨ visit.IsLost := by
  induction visits using List.reverseRecOn with
  | nil => cases recorded
  | append_singleton visits last ih =>
    obtain ⟨chain, follows⟩ := chain_append_singleton_iff.1 chain
    rw [List.foldl_append] at recorded
    change last.recordAfter (visits.foldl recordAfter none) = some state at recorded
    cases old : visits.foldl recordAfter none with
    | none =>
      rw [old] at follows recorded
      exact ⟨visits, last, [], rfl, follows.cases_unrecorded recorded, by simp⟩
    | some previous =>
      rw [old] at follows recorded
      rcases follows.cases recorded with accepted | ⟨rfl, quiet⟩
      · exact ⟨visits, last, [], rfl, accepted, by simp⟩
      · obtain ⟨before, source, after, rfl, accepted, rest⟩ := ih chain old
        refine ⟨before, source, after ++ [last], by simp, accepted, fun visit h => ?_⟩
        rcases List.mem_append.1 h with h | h
        · exact rest visit h
        · obtain rfl : visit = last := by simpa using h
          exact quiet

/-- The last command of a visit that loses track of its device was not accepted. -/
theorem IsLost.getLast?_commands {visit : Visit} (lost : visit.IsLost) :
    ∃ state reply, visit.commands.getLast? = some (state, reply) ∧ reply.isAccepted = false := by
  rcases visit with ⟨task, force, desired, _ | ⟨reply, answer⟩ | ⟨reply, answer, previous, restoring⟩⟩
  · cases lost
  · cases lost
  · exact ⟨previous, restoring, rfl, lost.2⟩

/-- After visits that leave a device alone or lose track of it, the last command is known exactly
    if all leave it alone. -/
theorem attests_append_iff {commands : List (DeviceState × CommandReply)} {state : DeviceState}
    {after : List Visit} (attested : Attests commands state)
    (quiet : ∀ visit ∈ after, visit.course = .skipped ∨ visit.IsLost) :
    ¬ Attests (commands ++ after.flatMap Visit.commands) state ↔ ∃ visit ∈ after, visit.IsLost := by
  induction after using List.reverseRecOn with
  | nil => simpa using attested
  | append_singleton after last ih =>
    have ih := ih fun visit h => quiet visit (List.mem_append_left _ h)
    rcases quiet last (by simp) with skipped | lost
    · have silent : last.commands = [] := by simp [Visit.commands, skipped]
      have kept : ¬ last.IsLost := by simp [IsLost, skipped]
      simp [List.flatMap_append, silent, ih, kept, or_and_right, exists_or]
    · obtain ⟨sent, reply, hlast, refused⟩ := lost.getLast?_commands
      refine iff_of_true ?_ ⟨last, by simp, lost⟩
      rintro ⟨sent', reply', hlast', accepted, -⟩
      rw [List.flatMap_append, ← List.append_assoc, List.flatMap_singleton, List.getLast?_append,
        hlast] at hlast'
      cases hlast'
      rw [refused] at accepted
      cases accepted

end Visit

-- ============================================================================
-- Executions that leave their device alone
-- ============================================================================

namespace Activity

variable {backend : Backend σ} {activity next : Activity σ} {self : Nat} {initial : Engine σ}
  {log : List Contact} {result : ExecuteResult}

/-- An execution that returns in a step and says that its device was left alone has found the
    desired state on record, holding the lock. -/
theorem Reached.exists_skip (reached : Reached backend initial log activity)
    (step : activity.Step backend self next)
    (returned : next.runResult? self = some (.ok result)) (unchanged : result.noChange = true) :
    ∃ (run : Run) (target : DeviceTarget), activity.tasks[self]? = some (.run run) ∧
      run.phase = .queued target ∧ activity.locks.heldBy target.deviceId self = true ∧
      run.isNeeded activity.engine target = false ∧
      result = .unchanged target.deviceId run.desired := by
  have advances := step.advances
  obtain ⟨run', task', ended, -⟩ := (reached.advance step).earned returned
  have busy {run : Run} (task : activity.tasks[self]? = some (.run run)) :
      run.phase ≠ .finished (.ok result) := by
    intro isOver
    obtain ⟨other, found, unfinished⟩ := advances.not_finished reached.pausesInside
    obtain rfl : Task.run run = other := Option.some.inj (task.symm.trans found)
    simp [isFinished, Run.result?, isOver] at unfinished
  cases advances.origin task' with
  | stays old | waits old => exact (busy old ended).elim
  | made ready => rw [ready] at ended; cases ended
  | @proceeds run step own old idle proceeds =>
    have accounted := reached.accounted old
    cases proceeds with
    | @skip target phase held needless =>
      cases ended
      exact ⟨run, target, old, phase, held, needless, rfl⟩
    | @save target state saved phase =>
      cases ended
      simp only [Run.Accounted, phase] at accounted
      rw [accounted.noChange_eq] at unchanged
      cases unchanged
    | _ => cases ended

/-- What an execution that leaves its device alone relies on, in a home that started without
    records.  Nobody is at the device, and its last accepted command carried the desired state;
    since then every execution on it has left it alone or has lost track of it.  So the last
    command of all was accepted and carried the desired state, unless an execution has lost track of
    the device, in which case it was a restoring command that failed. -/
theorem Reached.stale_skip_iff (reached : Reached backend initial log activity)
    (fresh : initial.records = []) (step : activity.Step backend self next)
    (returned : next.runResult? self = some (.ok result)) (unchanged : result.noChange = true) :
    activity.IsVacant result.deviceId ∧
    ∃ (run : Run) (before : List Visit) (source : Visit) (after : List Visit),
      activity.tasks[self]? = some (.run run) ∧ run.force = false ∧
      result = .unchanged result.deviceId run.desired ∧
      activity.Serial initial log result.deviceId (before ++ source :: after) [] ∧
      Attests source.commands run.desired ∧
      (∀ visit ∈ after, visit.course = .skipped ∨ visit.IsLost) ∧
      (¬ Attests (commandsTo result.deviceId log) run.desired ↔ ∃ visit ∈ after, visit.IsLost) := by
  obtain ⟨run, target, task, phase, held, needless, rfl⟩ :=
    reached.exists_skip step returned unchanged
  change activity.IsVacant target.deviceId ∧ _
  have kept := reached.locksKept
  have head := LockTable.heldBy_iff.1 held
  have outside : run.isInside = false := by rw [Run.isInside, phase]
  have vacant : activity.IsVacant target.deviceId := by
    intro id other task' inside claim
    have holds := (kept target.deviceId).inside_holds id (inside_of_task task' inside claim)
    obtain rfl := Option.some.inj (holds.symm.trans head)
    obtain rfl : run = other := by simpa [task] using task'
    rw [outside] at inside
    cases inside
  obtain ⟨unforced, due⟩ := Bool.or_eq_false_iff.1 needless
  rw [Engine.isChangeNeeded_eq, Bool.not_eq_false'] at due
  obtain ⟨state, recorded, same⟩ := (Option.any_eq_true _ _).1 due
  obtain ⟨visits, rest, serial⟩ := reached.serial target.deviceId
  obtain rfl := serial.underway.eq_nil_of_head kept task head outside
  have chain := serial.chain
  have record := serial.record.symm.trans recorded
  rw [fresh] at chain record
  obtain ⟨before, source, after, rfl, ⟨reply, last, accepted⟩, quiet⟩ := chain.exists_source record
  have attested (commands : List (DeviceState × CommandReply)) :
      Attests (commands ++ source.commands) run.desired :=
    ⟨state, reply, by rw [List.getLast?_append, last]; rfl, accepted, same⟩
  refine ⟨vacant, run, before, source, after, task, unforced, rfl, serial, attested [], quiet, ?_⟩
  change ¬ Attests (commandsTo target.deviceId log) run.desired ↔ _
  have split : (before ++ source :: after).flatMap Visit.commands
      = (before.flatMap Visit.commands ++ source.commands) ++ after.flatMap Visit.commands := by
    simp
  rw [serial.commandsTo_eq, split, List.filterMap_nil, List.append_nil]
  exact Visit.attests_append_iff (attested _) quiet

/-- A hall whose lamp accepts a command and then cannot be reached for two. -/
def flakyHall : Activity House :=
  let engine : Engine House :=
    { directory := .ofRooms [⟨"hall", .null, [⟨"lamp", .null, "light", "hall"⟩]⟩]
      range := ⟨16, 30⟩
      outside := ({} : House).scriptCommands "lamp"
        [none, some (.breaks "no route to host"), some (.breaks "no route to host")] }
  (((((({ engine } : Activity _).submit
    (.register "if motion in hall then light on" none)).submit
    (.register "if no motion in hall then light off" none)).submit
    (.execute 0 false)).submit (.execute 1 false)).submit (.execute 0 false))

/-- The lamp is switched on, cannot be switched off nor given back its state, and is left alone by
    the next execution that would switch it on. -/
theorem exists_skip_flakyHall : ∃ (initial : Engine House) (log : List Contact)
      (activity next : Activity House) (result : ExecuteResult),
    Reached House.backend initial log activity ∧ initial.records = [] ∧
      activity.Step House.backend 2 next ∧ next.runResult? 2 = some (.ok result) ∧
      result.noChange = true ∧ result.deviceId = "lamp" ∧
      (commandsTo "lamp" log).map (·.2.isAccepted) = [true, false, false] := by
  have run : ((flakyHall.follow House.backend [0, 0, 0, 0, 0, 1, 1, 1, 1, 1, 2]).bind fun f =>
        (f.2.advance House.backend 2).bind fun step =>
          (step.next.runResult? 2).map fun result =>
            ((result.toOption).map fun r => (r.noChange, r.deviceId),
              (commandsTo "lamp" f.1).map (·.2.isAccepted)))
      = some (some (true, "lamp"), [true, false, false]) := by
    decide +kernel
  obtain ⟨⟨log, activity⟩, followed, run⟩ := Option.bind_eq_some_iff.1 run
  obtain ⟨step, advanced, run⟩ := Option.bind_eq_some_iff.1 run
  obtain ⟨result, returned, run⟩ := Option.map_eq_some_iff.1 run
  obtain ⟨ended, commands⟩ := Prod.mk.inj run
  obtain ⟨r, ok, unchanged⟩ := Option.map_eq_some_iff.1 ended
  obtain ⟨noChange, device⟩ := Prod.mk.inj unchanged
  cases result with
  | error e => cases ok
  | ok r' =>
    cases ok
    have reached := ((((((Reached.start rfl).submit _).submit _).submit _).submit _).submit
      _).steps (Steps.of_follow followed)
    exact ⟨_, log, activity, step.next, r, reached, rfl,
      Option.map_eq_some_iff.2 ⟨step, advanced, rfl⟩, returned, noChange, device, commands⟩

/-- An execution that is not forced leaves the lamp alone although the last command of all was not
    accepted. -/
theorem stale_skip_flakyHall : ∃ (initial : Engine House) (log : List Contact)
      (activity next : Activity House) (run : Run) (result : ExecuteResult),
    Reached House.backend initial log activity ∧ initial.records = [] ∧
      activity.tasks[2]? = some (.run run) ∧ run.force = false ∧
      activity.Step House.backend 2 next ∧ next.runResult? 2 = some (.ok result) ∧
      result.noChange = true ∧ ¬ Attests (commandsTo result.deviceId log) run.desired := by
  obtain ⟨initial, log, activity, next, result, reached, fresh, step, returned, unchanged, device,
    commands⟩ := exists_skip_flakyHall
  obtain ⟨run, target, task, -, -, needless, -⟩ := reached.exists_skip step returned unchanged
  have unforced : run.force = false := (Bool.or_eq_false_iff.1 needless).1
  refine ⟨initial, log, activity, next, run, result, reached, fresh, task, unforced, step, returned,
    unchanged, ?_⟩
  rw [device]
  exact not_attests_of_refused (by rw [commands]; rfl) _

/-- The execution that failed to switch the lamp off has lost track of it. -/
theorem exists_lost_flakyHall : ∃ (initial : Engine House) (log : List Contact)
      (activity : Activity House) (visits : List Visit),
    Reached House.backend initial log activity ∧ initial.records = [] ∧
      activity.Serial initial log "lamp" visits [] ∧ ∃ visit ∈ visits, visit.IsLost := by
  obtain ⟨initial, log, activity, next, result, reached, fresh, step, returned, unchanged, device,
    commands⟩ := exists_skip_flakyHall
  obtain ⟨-, run, before, source, after, -, -, -, serial, -, -, lost⟩ :=
    reached.stale_skip_iff fresh step returned unchanged
  rw [device] at serial lost
  obtain ⟨visit, h, isLost⟩ := lost.1
    (not_attests_of_refused (by rw [commands]; rfl) run.desired)
  exact ⟨initial, log, activity, _, reached, fresh, serial, visit, by simp [h], isLost⟩

end Activity

end HomeAutomation
