/-
  HomeAutomation.Proofs.Sensor.Snapshot

  A snapshot has at most one reading for a metric and a location, however many
  spellings of a name and of a key it holds.
-/

import HomeAutomation.Sensor.Snapshot

namespace HomeAutomation

namespace Snapshot

/-- Entering an occurrence adds its pair at the end, unless the pair is there. -/
theorem keys_enter (held : List Ranked) (new : Ranked) :
    (enter held new).map (·.reading.key)
      = if new.reading.key ∈ held.map (·.reading.key) then held.map (·.reading.key)
        else held.map (·.reading.key) ++ [new.reading.key] := by
  induction held with
  | nil => rfl
  | cons first rest ih =>
    unfold enter
    by_cases h : first.reading.key = new.reading.key
    · have mem : new.reading.key ∈ (first :: rest).map (·.reading.key) := by simp [h]
      rw [if_pos h, if_pos mem]
      split <;> simp [h]
    · rw [if_neg h, List.map_cons, ih]
      by_cases hr : new.reading.key ∈ rest.map (·.reading.key)
      · rw [if_pos hr, if_pos (by rw [List.map_cons]; exact List.mem_cons_of_mem _ hr)]
        rfl
      · rw [if_neg hr, if_neg (by rw [List.map_cons, List.mem_cons, not_or]; exact ⟨Ne.symm h, hr⟩)]
        rfl

theorem nodup_keys_enter {held : List Ranked} (h : (held.map (·.reading.key)).Nodup)
    (new : Ranked) : ((enter held new).map (·.reading.key)).Nodup := by
  rw [keys_enter]
  split
  · exact h
  · rename_i fresh
    refine List.nodup_append.2 ⟨h, by simp, fun key hkey other ho => ?_⟩
    obtain rfl : other = _ := by simpa using ho
    exact fun heq => fresh (heq ▸ hkey)

/-- No two readings of a snapshot are about the same metric at the same location. -/
theorem nodup_keys_readings {snapshot : Json} {readings : List SensorReading}
    (h : Snapshot.readings snapshot = .ok readings) : (readings.map (·.key)).Nodup := by
  cases snapshot with
  | object fields =>
    obtain rfl := Except.ok.inj h
    rw [List.map_map]
    have none : (([] : List Ranked).map (·.reading.key)).Nodup := .nil
    exact List.foldlRecOn (motive := fun held => (held.map (·.reading.key)).Nodup)
      (occurrences fields) enter none fun held hheld new _ => nodup_keys_enter hheld new
  | _ => cases h

end Snapshot

end HomeAutomation
