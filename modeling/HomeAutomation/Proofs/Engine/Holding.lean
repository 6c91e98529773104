/-
  HomeAutomation.Proofs.Engine.Holding

  What the run inside has in hand for its device: a call in progress, or a state
  being saved.  Whatever it is, there is at most one of it at a device; changes
  elsewhere leave it alone, and a step of the run at the device replaces what the
  run had in hand before by what it has in hand after.
-/

import HomeAutomation.Proofs.Engine.Serialization

namespace HomeAutomation

variable {σ : Type} {β : Type}

/-- What a run has in hand, and for which device: nothing unless it is inside there, and the same
    however long its call still suspends. -/
structure Run.InHand (hand : Run → Option (String × β)) : Prop where
  inside : ∀ {run : Run} {deviceId : String} {x : β}, hand run = some (deviceId, x) →
    run.isInside = true ∧ run.claim? = some deviceId
  resumes : ∀ (run : Run) (pauses : Nat), hand { run with pauses } = hand run

namespace Activity

/-- What is in hand for a device. -/
inductive Held (hand : Run → Option (String × β)) (activity : Activity σ) (deviceId : String) :
    List β → Prop
  | nobody (none : ∀ {id : Nat} {run : Run} {x : β},
      activity.tasks[id]? = some (.run run) → hand run ≠ some (deviceId, x)) :
      Held hand activity deviceId []
  | holder {id : Nat} {run : Run} {x : β} (task : activity.tasks[id]? = some (.run run))
      (holds : hand run = some (deviceId, x)) : Held hand activity deviceId [x]

namespace Held

variable {hand : Run → Option (String × β)} {activity next : Activity σ} {deviceId : String}
  {xs : List β} {backend : Backend σ} {self : Nat} {run : Run} {step : RunStep σ}

/-- A change that leaves alone what is in hand for a device. -/
theorem transfer (held : activity.Held hand deviceId xs)
    (stays : ∀ {id : Nat} {run : Run} {x : β}, activity.tasks[id]? = some (.run run) →
      hand run = some (deviceId, x) →
      ∃ run' : Run, next.tasks[id]? = some (.run run') ∧ hand run' = some (deviceId, x))
    (newcomers : ∀ {id : Nat} {run : Run} {x : β}, next.tasks[id]? = some (.run run) →
      hand run = some (deviceId, x) →
      ∃ run' : Run, activity.tasks[id]? = some (.run run') ∧ hand run' = some (deviceId, x)) :
    next.Held hand deviceId xs := by
  cases held with
  | nobody none =>
    refine .nobody fun task holds => ?_
    obtain ⟨run', task', holds'⟩ := newcomers task holds
    exact none task' holds'
  | holder task holds =>
    obtain ⟨run', task', holds'⟩ := stays task holds
    exact .holder task' holds'

theorem calm (held : activity.Held hand deviceId xs) (inHand : Run.InHand hand)
    (calm : activity.Calm next) : next.Held hand deviceId xs :=
  held.transfer (fun task holds => ⟨_, calm.stays task, holds⟩)
    fun task holds => ⟨_, calm.newcomers task (inHand.inside holds).1, holds⟩

/-- A run that waits keeps what it has in hand. -/
theorem pause (held : activity.Held hand deviceId xs) (inHand : Run.InHand hand)
    (task : activity.tasks[self]? = some (.run run)) (pauses : Nat) :
    (activity.put self (.run { run with pauses })).Held hand deviceId xs := by
  refine held.transfer (fun {id r x} hr holds => ?_) fun {id r x} hr holds => ?_
  · by_cases hid : id = self
    · obtain rfl : run = r := by simpa [hid, task] using hr
      exact ⟨{ run with pauses }, by rw [put, getElem?_set_task task, if_pos hid],
        (inHand.resumes run pauses).trans holds⟩
    · exact ⟨r, by rw [put, getElem?_set_task task, if_neg hid]; exact hr, holds⟩
  · rw [put, getElem?_set_task task] at hr
    split at hr
    · rename_i hid
      obtain rfl : { run with pauses } = r := by simpa using hr
      exact ⟨run, hid ▸ task, (inHand.resumes run pauses).symm.trans holds⟩
    · exact ⟨r, hr, holds⟩

/-- A step of a run at another device, or at none. -/
theorem proceed_other (held : activity.Held hand deviceId xs) (inHand : Run.InHand hand)
    (task : activity.tasks[self]? = some (.run run))
    (proceeds : run.Proceeds backend self activity.engine activity.locks step)
    (other : run.claim? ≠ some deviceId) :
    Held hand { activity.put self (.run step.run) with engine := step.engine, locks := step.locks }
      deviceId xs := by
  refine held.transfer (fun {id r x} hr holds => ?_) fun {id r x} hr holds => ?_
  · have hid : id ≠ self := by
      rintro rfl
      obtain rfl : run = r := by simpa [task] using hr
      exact other (inHand.inside holds).2
    exact ⟨r, by simp only [put, getElem?_set_task task, if_neg hid]; exact hr, holds⟩
  · simp only [put, getElem?_set_task task] at hr
    split at hr
    · obtain rfl : step.run = r := by simpa using hr
      obtain ⟨inside, claim⟩ := inHand.inside holds
      exact absurd (proceeds.claim?_of_isInside inside claim) other
    · exact ⟨r, hr, holds⟩

section AtDevice

variable (inHand : Run.InHand hand) (kept : activity.LocksKept)
  (task : activity.tasks[self]? = some (.run run))
  (proceeds : run.Proceeds backend self activity.engine activity.locks step)
  (claim : run.claim? = some deviceId)
include inHand kept task proceeds claim

/-- Nobody but the run that proceeds at a device has anything in hand for it. -/
theorem id_eq {id : Nat} {r : Run} {x : β} (hr : activity.tasks[id]? = some (.run r))
    (holds : hand r = some (deviceId, x)) : id = self := by
  obtain ⟨inside, hc⟩ := inHand.inside holds
  have head := (kept deviceId).inside_holds id (inside_of_task hr inside hc)
  exact Option.some.inj (head.symm.trans (head_of_proceeds kept task proceeds claim))

theorem eq_of_claim (held : activity.Held hand deviceId xs) :
    xs = ((hand run).map (·.2)).toList := by
  cases held with
  | nobody none =>
    cases holds : hand run with
    | none => rfl
    | some entry =>
      obtain ⟨device, x⟩ := entry
      obtain rfl : device = deviceId :=
        Option.some.inj ((inHand.inside holds).2.symm.trans claim)
      exact absurd holds (none task)
  | holder hr holds =>
    obtain rfl := id_eq inHand kept task proceeds claim hr holds
    obtain rfl : run = _ := by simpa [task] using hr
    simp [holds]

/-- After a step at a device its run has in hand what there is. -/
theorem proceed_self :
    Held hand { activity.put self (.run step.run) with engine := step.engine, locks := step.locks }
      deviceId ((hand step.run).map (·.2)).toList := by
  have hself : (activity.tasks.set self (.run step.run))[self]? = some (.run step.run) := by
    rw [getElem?_set_task task, if_pos rfl]
  cases has : hand step.run with
  | none =>
    refine .nobody fun {id r x} hr holds => ?_
    simp only [put, getElem?_set_task task] at hr
    split at hr
    · obtain rfl : step.run = r := by simpa using hr
      cases has.symm.trans holds
    · rename_i hid
      exact hid (id_eq inHand kept task proceeds claim hr holds)
  | some entry =>
    obtain ⟨device, x⟩ := entry
    obtain ⟨inside, hc⟩ := inHand.inside has
    obtain rfl : device = deviceId :=
      Option.some.inj ((proceeds.claim?_of_isInside inside hc).symm.trans claim)
    exact .holder hself has

end AtDevice

end Held

end Activity

end HomeAutomation
