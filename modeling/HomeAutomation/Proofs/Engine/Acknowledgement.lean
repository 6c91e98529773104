/-
  HomeAutomation.Proofs.Engine.Acknowledgement

  What the engine knows of its devices.  The record of a device is a closed form
  of the log: at every moment of every run it holds the state of the last
  command that the device accepted, be it the command of an action or one that
  restored a state, and the initial record as long as there was no such command.
  Commands that fail leave no trace in the records.
-/

import HomeAutomation.Proofs.Engine.CriticalSection

namespace HomeAutomation

variable {σ : Type}

-- ============================================================================
-- Commands
-- ============================================================================

/-- The command that an exchange is, with its reply. -/
def Exchange.command? : Exchange → Option (DeviceState × CommandReply)
  | skipped => none
  | read _ => none
  | command state reply => some (state, reply)

/-- The commands that ended at a device, with their replies. -/
def commandsTo (deviceId : String) (log : List Contact) : List (DeviceState × CommandReply) :=
  (Activity.saidTo deviceId log).filterMap (·.exchange.command?)

/-- The states of the commands that were accepted. -/
def accepted (commands : List (DeviceState × CommandReply)) : List DeviceState :=
  (commands.filter (·.2.isAccepted)).map (·.1)

/-- The state of the last command that was accepted. -/
def acknowledged? (commands : List (DeviceState × CommandReply)) : Option DeviceState :=
  (accepted commands).getLast?

/-- The last command was accepted, and it carried a state. -/
def Attests (commands : List (DeviceState × CommandReply)) (state : DeviceState) : Prop :=
  ∃ sent reply, commands.getLast? = some (sent, reply) ∧ reply.isAccepted = true ∧
    sent.same state = true

theorem commandsTo_append (deviceId : String) (log more : List Contact) :
    commandsTo deviceId (log ++ more) = commandsTo deviceId log ++ commandsTo deviceId more := by
  simp only [commandsTo, Activity.saidTo_append, List.filterMap_append]

theorem accepted_append (commands more : List (DeviceState × CommandReply)) :
    accepted (commands ++ more) = accepted commands ++ accepted more := by
  simp only [accepted, List.filter_append, List.map_append]

theorem accepted_of_isAccepted {reply : CommandReply} (h : reply.isAccepted = true)
    (state : DeviceState) : accepted [(state, reply)] = [state] := by simp [accepted, h]

theorem accepted_of_refused {reply : CommandReply} (h : reply.isAccepted = false)
    (state : DeviceState) : accepted [(state, reply)] = [] := by simp [accepted, h]

theorem acknowledged?_append (commands more : List (DeviceState × CommandReply)) :
    acknowledged? (commands ++ more) = (acknowledged? more).or (acknowledged? commands) := by
  rw [acknowledged?, accepted_append, List.getLast?_append]
  rfl

/-- Commands that fail acknowledge nothing. -/
theorem acknowledged?_eq_none {commands : List (DeviceState × CommandReply)}
    (refused : ∀ command ∈ commands, command.2.isAccepted = false) :
    acknowledged? commands = none := by
  have none_accepted : commands.filter (·.2.isAccepted) = [] :=
    List.filter_eq_nil_iff.2 fun command h => by simp [refused command h]
  simp [acknowledged?, accepted, none_accepted]

/-- Commands whose last one was refused attest nothing. -/
theorem not_attests_of_refused {commands : List (DeviceState × CommandReply)}
    (refused : (commands.map (·.2.isAccepted)).getLast? = some false) (state : DeviceState) :
    ¬ Attests commands state := by
  rintro ⟨sent, reply, last, accepted, -⟩
  rw [List.getLast?_map, last, Option.map_some, accepted] at refused
  cases refused

-- ============================================================================
-- Commands of a visit
-- ============================================================================

namespace Visit

/-- The commands of a visit. -/
def commands (visit : Visit) : List (DeviceState × CommandReply) :=
  match visit.course with
  | .skipped => []
  | .commanded _ answer => [(visit.desired, answer)]
  | .rolledBack _ answer previous restoring => [(visit.desired, answer), (previous, restoring)]

theorem filterMap_command? (deviceId : String) (visit : Visit) :
    (visit.contacts deviceId).filterMap (·.exchange.command?) = visit.commands := by
  rcases visit with ⟨task, force, desired, _ | _ | _⟩ <;> rfl

theorem filterMap_flatMap_command? (deviceId : String) (visits : List Visit) :
    (visits.flatMap (contacts deviceId)).filterMap (·.exchange.command?)
      = visits.flatMap commands := by
  simp only [List.filterMap_flatMap, filterMap_command?]

/-- A visit leaves the state of its last accepted command on record. -/
theorem Follows.recordAfter_eq {recorded : Option DeviceState} {visit : Visit}
    (follows : visit.Follows recorded) :
    visit.recordAfter recorded = (acknowledged? visit.commands).or recorded := by
  rcases visit with ⟨task, force, desired, _ | ⟨reply, answer⟩ | ⟨reply, answer, previous, restoring⟩⟩
  · rfl
  · cases h : answer.isAccepted <;> simp [recordAfter, acknowledged?, accepted, commands, h]
  · have refused : answer.isAccepted = false := follows.2.1
    cases h : restoring.isAccepted <;>
      simp [recordAfter, acknowledged?, accepted, commands, refused, h]

/-- A chain of visits leaves the state of the last accepted command on record. -/
theorem Chain.foldl_recordAfter {recorded : Option DeviceState} {visits : List Visit}
    (chain : Chain recorded visits) :
    visits.foldl recordAfter recorded = (acknowledged? (visits.flatMap commands)).or recorded := by
  induction visits generalizing recorded with
  | nil => rfl
  | cons visit rest ih =>
    obtain ⟨follows, chain⟩ := chain
    rw [List.foldl_cons, ih chain, follows.recordAfter_eq, List.flatMap_cons, acknowledged?_append,
      Option.or_assoc]

end Visit

/-- A visit under way has had no command accepted: its run would be done with it. -/
theorem Run.Begun.refused {run : Run} {recorded previous : Option DeviceState}
    {said : List Exchange} (begun : run.Begun recorded previous said) :
    ∀ command ∈ said.filterMap Exchange.command?, command.2.isAccepted = false := by
  cases begun with
  | reading | saving => simp
  | commanding => simp [Exchange.command?]
  | restoring _ _ refused => simpa [Exchange.command?] using refused

namespace Activity

variable {backend : Backend σ} {activity next : Activity σ} {self : Nat} {deviceId : String}

theorem Underway.refused {rest : List Contact} (underway : activity.Underway deviceId rest) :
    ∀ command ∈ rest.filterMap (·.exchange.command?), command.2.isAccepted = false := by
  cases underway with
  | free => simp
  | inside task inside claim begun =>
    rw [List.filterMap_map]
    exact begun.refused

namespace Serial

variable {initial : Engine σ} {log : List Contact} {visits : List Visit} {rest : List Contact}

theorem commandsTo_eq (serial : activity.Serial initial log deviceId visits rest) :
    commandsTo deviceId log
      = visits.flatMap Visit.commands ++ rest.filterMap (·.exchange.command?) := by
  rw [commandsTo, serial.said, List.filterMap_append, Visit.filterMap_flatMap_command?]

/-- The record of a device as a closed form of the commands that ended at it. -/
theorem record_eq (serial : activity.Serial initial log deviceId visits rest) :
    activity.engine.records.get? deviceId
      = (acknowledged? (commandsTo deviceId log)).or (initial.records.get? deviceId) := by
  rw [serial.record, serial.chain.foldl_recordAfter, serial.commandsTo_eq, acknowledged?_append,
    acknowledged?_eq_none serial.underway.refused, Option.none_or]

end Serial

/-- At every moment the record of a device holds the state of the last command that the device
    accepted, or the initial one. -/
theorem Reached.record_eq {initial : Engine σ} {log : List Contact}
    (reached : Reached backend initial log activity) (deviceId : String) :
    activity.engine.records.get? deviceId
      = (acknowledged? (commandsTo deviceId log)).or (initial.records.get? deviceId) := by
  obtain ⟨visits, rest, serial⟩ := reached.serial deviceId
  exact serial.record_eq

end Activity

end HomeAutomation
