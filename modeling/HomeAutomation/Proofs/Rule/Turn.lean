/-
  HomeAutomation.Proofs.Rule.Turn

  The turn of a rule text from its condition to its command.  It is at the first
  "then" that leaves a word on both sides, and what is read of a text is read of
  the words before and after it.
-/

import Mathlib.Order.Bounds.Basic
import HomeAutomation.Proofs.Rule.Parser

namespace HomeAutomation.Rule

open Text

/-- Words are split at the first "then" with words on both sides. -/
theorem splitThen?_eq_some_iff {ws before after : List String} :
    splitThen? ws = some (before, after) ↔
      before ≠ [] ∧ after ≠ [] ∧ ws = before ++ "then" :: after ∧ "then" ∉ before.tail := by
  induction ws generalizing before with
  | nil => simp [splitThen?]
  | cons word rest ih =>
    unfold splitThen?
    split
    · rename_i first others
      constructor
      · intro h
        cases h
        simp
      · rintro ⟨filled, -, same, unsplit⟩
        obtain ⟨word', more, rfl⟩ := List.exists_cons_of_ne_nil filled
        obtain ⟨rfl, tail⟩ := List.cons.inj same
        cases more with
        | nil =>
          obtain ⟨-, rfl⟩ := List.cons.inj tail
          rfl
        | cons next more =>
          obtain ⟨rfl, -⟩ := List.cons.inj tail
          exact absurd List.mem_cons_self unsplit
    · rename_i unturned
      rw [Option.map_eq_some_iff]
      constructor
      · rintro ⟨⟨more, others⟩, tail, same⟩
        cases same
        obtain ⟨filled, kept, rfl, unsplit⟩ := ih.1 tail
        refine ⟨List.cons_ne_nil _ _, kept, rfl, ?_⟩
        obtain ⟨next, more, rfl⟩ := List.exists_cons_of_ne_nil filled
        -- a "then" here would have been the turn
        have other : next ≠ "then" := by
          rintro rfl
          obtain ⟨first, others, h⟩ : ∃ first others, more ++ "then" :: after = first :: others :=
            List.exists_cons_of_ne_nil (by simp)
          exact unturned first others (by rw [List.cons_append, h])
        rw [List.tail_cons, List.mem_cons, not_or]
        exact ⟨other.symm, unsplit⟩
      · rintro ⟨filled, kept, split, unsplit⟩
        obtain ⟨word', more, rfl⟩ := List.exists_cons_of_ne_nil filled
        obtain ⟨rfl, rfl⟩ := List.cons.inj split
        have filled' : more ≠ [] := by
          rintro rfl
          obtain ⟨first, others, rfl⟩ := List.exists_cons_of_ne_nil kept
          exact unturned first others rfl
        have unsplit' : "then" ∉ more.tail := fun h => unsplit (List.mem_of_mem_tail h)
        exact ⟨_, ih.2 ⟨filled', kept, rfl, unsplit'⟩, rfl⟩

/-- The turn is at the first "then" that leaves a word on both sides. -/
theorem isLeast_turn_iff (start : String) {before after : List String} (filled : before ≠ [])
    (kept : after ≠ []) :
    IsLeast {k | 2 ≤ k ∧ (start :: (before ++ "then" :: after))[k]? = some "then" ∧
        k + 1 < (start :: (before ++ "then" :: after)).length} (before.length + 1) ↔
      "then" ∉ before.tail := by
  have some_before := List.length_pos_iff.2 filled
  have some_after := List.length_pos_iff.2 kept
  have length : (start :: (before ++ "then" :: after)).length
      = before.length + after.length + 2 := by
    simp only [List.length_cons, List.length_append]
    omega
  have inside {j : Nat} (hj : j + 1 < before.length) :
      (start :: (before ++ "then" :: after))[j + 2]? = before.tail[j]? := by
    rw [List.getElem?_cons_succ, List.getElem?_append_left hj, List.getElem?_tail]
  rw [length]
  constructor
  · rintro ⟨-, least⟩ early
    obtain ⟨j, at_j⟩ := List.getElem?_of_mem early
    have hj : j + 1 < before.length := by
      have := (List.getElem?_eq_some_iff.1 at_j).1
      rw [List.length_tail] at this
      omega
    have : before.length + 1 ≤ j + 2 := least ⟨by omega, (inside hj).trans at_j, by omega⟩
    omega
  · intro unsplit
    refine ⟨⟨by omega, by simp, by omega⟩, ?_⟩
    rintro k ⟨late, at_k, -⟩
    by_contra earlier
    obtain ⟨j, rfl⟩ : ∃ j, k = j + 2 := ⟨k - 2, by omega⟩
    rw [inside (by omega)] at at_k
    exact unsplit (List.mem_of_getElem? at_k)

-- ============================================================================
-- Reading before and after the turn
-- ============================================================================

variable {range : SetPointRange} {text : String}

/-- A rule is read from the words before and after the turn. -/
theorem parse_of_turn {before after : List String} (filled : before ≠ []) (kept : after ≠ [])
    (unsplit : "then" ∉ before.tail)
    (words : normalWords text = "if" :: (before ++ "then" :: after)) :
    parse range text = (do
      let condition ← Condition.parse (unwords before)
      let action ← ActionSpec.parse range (unwords after) condition.location
      return ⟨condition, action⟩) := by
  have turn := splitThen?_eq_some_iff.2 ⟨filled, kept, rfl, unsplit⟩
  unfold parse
  split
  · rename_i rest same
    obtain rfl := (List.cons.inj (words.symm.trans same)).2
    rw [turn]
  · rename_i other
    exact absurd words (other _)

/-- What is read as a rule has a turn. -/
theorem exists_turn_of_parse {rule : Rule} (h : parse range text = .ok rule) :
    ∃ before after, before ≠ [] ∧ after ≠ [] ∧ "then" ∉ before.tail ∧
      normalWords text = "if" :: (before ++ "then" :: after) := by
  unfold parse at h
  split at h
  · rename_i rest words
    split at h
    · rename_i before after turn
      obtain ⟨filled, kept, rfl, unsplit⟩ := splitThen?_eq_some_iff.1 turn
      exact ⟨before, after, filled, kept, unsplit, words⟩
    · cases h
  · cases h

end HomeAutomation.Rule
