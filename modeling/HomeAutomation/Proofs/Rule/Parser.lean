/-
  HomeAutomation.Proofs.Rule.Parser

  The conditions of rules that could be read.  A condition is on motion or it
  compares another metric with a threshold by a known sign, so that whatever it
  sees in a reading can be tested.
-/

import HomeAutomation.Event.Basic
import HomeAutomation.Rule.Parser

namespace HomeAutomation

/-- Two steps succeed if the first does, and the second with what the first gives. -/
theorem bind_eq_ok_iff {ε α β : Type} {x : Except ε α} {f : α → Except ε β} {b : β} :
    x >>= f = .ok b ↔ ∃ a, x = .ok a ∧ f a = .ok b := by
  cases x with
  | error e => simp [Bind.bind, Except.bind]
  | ok a => simp [Bind.bind, Except.bind]

/-- Two steps fail if the first does, or the second with what the first gives. -/
theorem bind_eq_error_iff {ε α β : Type} {x : Except ε α} {f : α → Except ε β} {e : ε} :
    x >>= f = .error e ↔ x = .error e ∨ ∃ a, x = .ok a ∧ f a = .error e := by
  cases x with
  | error e' => simp [Bind.bind, Except.bind]
  | ok a => simp [Bind.bind, Except.bind]

/-- A list falls apart at an element with a number. -/
theorem eq_take_append {α : Type} {xs : List α} {k : Nat} {x : α} (h : xs[k]? = some x) :
    xs = xs.take k ++ x :: xs.drop (k + 1) := by
  obtain ⟨hk, rfl⟩ := List.getElem?_eq_some_iff.1 h
  rw [← List.drop_eq_getElem_cons, List.take_append_drop]

namespace Condition

/-- The conditions that rules have. -/
inductive Ruled : Condition → Prop
  | motion (location : String) (expected : Bool) : Ruled (.motion location expected)
  | compare {metric : String} (other : metric ≠ motionMetric) (comparison : Comparison)
      (threshold : Double) (location : String) :
      Ruled (.compare metric comparison threshold location)

theorem metricOfWord?_ne_motion {word metric : String} (h : metricOfWord? word = some metric) :
    metric ≠ motionMetric := by
  unfold metricOfWord? at h
  split at h <;> cases h <;> decide

/-- How conditions are read: a condition on motion as it is, a comparison from the words for its
    metric and its threshold. -/
inductive Read : Condition → Prop
  | motion (location : String) (expected : Bool) : Read (.motion location expected)
  | compare {word metric numeral : String} {threshold : Double}
      (known : metricOfWord? word = some metric) (number : finiteNumber? numeral = some threshold)
      (comparison : Comparison) (location : String) :
      Read (.compare metric comparison threshold location)

theorem Read.ruled {c : Condition} (h : c.Read) : c.Ruled := by
  cases h with
  | motion location expected => exact .motion location expected
  | compare known number => exact .compare (metricOfWord?_ne_motion known) _ _ _

theorem read_of_ofParts {metric numeral location : String} {comparison : Comparison}
    {c : Condition} (h : ofParts metric comparison numeral location = .ok c) : c.Read := by
  unfold ofParts at h
  split at h
  · cases h
  · rename_i known
    split at h <;> cases h
    exact .compare known ‹_› _ _

theorem read_of_ofWords {ws : List String} {c : Condition} (h : ofWords ws = .ok c) : c.Read := by
  unfold ofWords at h
  split at h
  · cases h
    exact .motion _ _
  · cases h
    exact .motion _ _
  · split at h
    · exact read_of_ofParts h
    · cases h
  · cases h

theorem read_of_parse {text : String} {c : Condition} (h : parse text = .ok c) : c.Read := by
  unfold parse at h
  dsimp only at h
  cases hw : ofWords (sourceWords text) with
  | error fault =>
    rw [hw] at h
    cases h
  | ok c' =>
    rw [hw] at h
    obtain rfl : c' = c := Except.ok.inj h
    exact read_of_ofWords hw

theorem ofSymbol?_symbol (comparison : Comparison) :
    Comparison.ofSymbol? comparison.symbol = some comparison := by
  cases comparison <;> rfl

/-- What the condition of a rule sees in a reading can be tested. -/
theorem Ruled.test_ok {c : Condition} (h : c.Ruled) {value : Json} {seen : EventValue}
    (hs : c.see value = .ok seen) : ∃ holds, c.test seen = .ok holds := by
  cases h with
  | motion location expected =>
    obtain rfl : .truth value.isTrue = seen := by
      simpa [see, isMotion, Condition.motion] using hs
    exact ⟨_, rfl⟩
  | @compare metric other comparison threshold location =>
    have hm : isMotion (.compare metric comparison threshold location) = false := by
      simpa [isMotion, Condition.compare] using other
    rw [see, hm] at hs
    cases hv : value.toDouble with
    | error e => simp [hv, Except.map] at hs
    | ok number =>
      obtain rfl : .number number = seen := by simpa [hv, Except.map] using hs
      exact ⟨comparison.holds number threshold, by
        simp [test, compares, Condition.compare, ofSymbol?_symbol]⟩

/-- The condition of a rule can be tested by an event. -/
theorem Ruled.ofCondition_ok {α : Type} {c : Condition} (h : c.Ruled) :
    Event.ofCondition c = .ok ({ condition := c } : Event α) := by
  cases h with
  | motion => rfl
  | compare => simp [Event.ofCondition, Condition.compare, ofSymbol?_symbol]

end Condition

/-- The condition of a rule was read. -/
theorem Rule.read_of_parse {range : SetPointRange} {text : String} {rule : Rule}
    (h : Rule.parse range text = .ok rule) : rule.condition.Read := by
  unfold Rule.parse at h
  split at h
  · split at h
    · obtain ⟨condition, read, h⟩ := bind_eq_ok_iff.1 h
      obtain ⟨action, -, h⟩ := bind_eq_ok_iff.1 h
      cases h
      exact Condition.read_of_parse read
    · cases h
  · cases h

/-- The condition of a rule that could be read is one that rules have. -/
theorem Rule.ruled_of_parse {range : SetPointRange} {text : String} {rule : Rule}
    (h : Rule.parse range text = .ok rule) : rule.condition.Ruled :=
  (Rule.read_of_parse h).ruled

end HomeAutomation
