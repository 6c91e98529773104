/-
  HomeAutomation.Proofs.Storage.Rules

  Rules on file.  What is on file under an id is what was filed there last, and the
  rules on file that can be read stand in the order of the rows.
-/

import HomeAutomation.Proofs.Engine.Listing
import HomeAutomation.Proofs.Occurrence

namespace HomeAutomation

namespace RuleRows

variable {range : SetPointRange} {rows : RuleRows} {id : String}

/-- The rule on file under an id, with its text, if it is active and can be read. -/
def current? (range : SetPointRange) (rows : RuleRows) (id : String) : Option (String × String) :=
  (Table.get? rows id).bind fun row =>
    if row.active && Rule.isReadable range row.text then some (id, row.text) else none

theorem fst_of_current? {entry : String × String} (h : rows.current? range id = some entry) :
    entry.1 = id := by
  obtain ⟨row, -, shown⟩ := Option.bind_eq_some_iff.1 h
  split at shown
  · cases shown
    rfl
  · cases shown

/-- A write is about one id. -/
theorem current?_upsert (range : SetPointRange) (rows : RuleRows) (write : RuleWrite)
    (id : String) :
    (rows.upsert write).current? range id
      = if id = write.id then
          if write.active && Rule.isReadable range write.text then some (write.id, write.text)
          else none
        else rows.current? range id := by
  unfold current? upsert
  by_cases same : id = write.id
  · subst same
    rw [Table.get?_set_self, if_pos rfl]
    rfl
  · rw [Table.get?_set_ne _ _ same, if_neg same]

/-- The rules on file that can be read are those under the ids in their order. -/
theorem filter_activeTexts (range : SetPointRange) (nodup : (Table.names rows).Nodup) :
    rows.activeTexts.filter (fun entry => Rule.isReadable range entry.2)
      = (Table.names rows).filterMap (rows.current? range) := by
  unfold activeTexts active Table.names
  rw [List.filterMap_map, List.filter_map, List.filter_filter, ← List.filterMap_eq_map,
    List.filterMap_filter]
  refine List.filterMap_congr fun row h => ?_
  have found : Table.get? rows row.1 = some row.2 := Table.get?_of_mem nodup h
  simp only [Function.comp_apply, current?, found, Option.bind_some, Bool.and_comm]

end RuleRows

end HomeAutomation
