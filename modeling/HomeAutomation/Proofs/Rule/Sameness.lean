/-
  HomeAutomation.Proofs.Rule.Sameness

  Being the same, for conditions.  Numbers are compared by what they count, so
  that being the same is symmetric and transitive without further ado; a
  condition that was read has a finite threshold, if any, and is the same as
  itself.  Conditions that are the same find the same of every reading.
-/

import HomeAutomation.Proofs.Rule.Parser

namespace HomeAutomation

namespace Double

theorem eq_iff {a b : Double} : a.eq b = true ↔ ∃ p, a.place? = some p ∧ b.place? = some p := by
  unfold Double.eq compareBy
  cases a.place? with
  | none => simp
  | some p =>
    cases b.place? with
    | none => simp
    | some q =>
      refine beq_iff_eq.trans ⟨fun h => ⟨p, rfl, congrArg some h.symm⟩, ?_⟩
      rintro ⟨r, hp, hq⟩
      exact Option.some.inj (hp.trans hq.symm)

theorem eq_symm {a b : Double} (h : a.eq b = true) : b.eq a = true := by
  obtain ⟨p, ha, hb⟩ := eq_iff.1 h
  exact eq_iff.2 ⟨p, hb, ha⟩

theorem eq_trans {a b c : Double} (h : a.eq b = true) (h' : b.eq c = true) : a.eq c = true := by
  obtain ⟨p, ha, hb⟩ := eq_iff.1 h
  obtain ⟨q, hb', hc⟩ := eq_iff.1 h'
  obtain rfl := Option.some.inj (hb.symm.trans hb')
  exact eq_iff.2 ⟨p, ha, hc⟩

theorem eq_self_of_isFinite {a : Double} (h : a.isFinite = true) : a.eq a = true := by
  cases a with
  | finite => exact eq_iff.2 ⟨_, rfl, rfl⟩
  | nan | infinite => cases h

end Double

namespace Condition

theorem same_iff {a b : Condition} :
    a.same b = true ↔ a.metric = b.metric ∧ a.location = b.location ∧ a.operator = b.operator ∧
      sameThreshold a.threshold b.threshold = true ∧ a.expected = b.expected := by
  simp [same, and_assoc]

theorem sameThreshold_symm {a b : Option Double} (h : sameThreshold a b = true) :
    sameThreshold b a = true := by
  cases a with
  | none =>
    cases b with
    | none => rfl
    | some => cases h
  | some x =>
    cases b with
    | none => cases h
    | some => exact Double.eq_symm h

theorem sameThreshold_trans {a b c : Option Double} (h : sameThreshold a b = true)
    (h' : sameThreshold b c = true) : sameThreshold a c = true := by
  cases b with
  | none =>
    cases a with
    | none => exact h'
    | some => cases h
  | some y =>
    cases a with
    | none => cases h
    | some x =>
      cases c with
      | none => cases h'
      | some z => exact Double.eq_trans h h'

theorem same_symm {a b : Condition} (h : a.same b = true) : b.same a = true := by
  obtain ⟨metric, location, operator, threshold, expected⟩ := same_iff.1 h
  exact same_iff.2
    ⟨metric.symm, location.symm, operator.symm, sameThreshold_symm threshold, expected.symm⟩

theorem same_trans {a b c : Condition} (h : a.same b = true) (h' : b.same c = true) :
    a.same c = true := by
  obtain ⟨metric, location, operator, threshold, expected⟩ := same_iff.1 h
  obtain ⟨metric', location', operator', threshold', expected'⟩ := same_iff.1 h'
  exact same_iff.2 ⟨metric.trans metric', location.trans location', operator.trans operator',
    sameThreshold_trans threshold threshold', expected.trans expected'⟩

theorem symbol_inj {a b : Comparison} : a.symbol = b.symbol ↔ a = b := by
  constructor
  · intro h
    have sign := congrArg Comparison.ofSymbol? h
    rw [ofSymbol?_symbol, ofSymbol?_symbol] at sign
    exact Option.some.inj sign
  · exact congrArg Comparison.symbol

/-- Comparisons are the same if all their parts are, thresholds by number. -/
theorem same_compare_iff {metric metric' location location' : String}
    {comparison comparison' : Comparison} {value value' : Double} :
    (compare metric comparison value location).same
        (compare metric' comparison' value' location') = true ↔
      metric = metric' ∧ comparison = comparison' ∧ value.eq value' = true ∧
        location = location' := by
  rw [same_iff]
  simp only [compare, Option.some.injEq, symbol_inj, sameThreshold, and_true]
  constructor
  · rintro ⟨metric, location, sign, number⟩
    exact ⟨metric, sign, number, location⟩
  · rintro ⟨metric, sign, number, location⟩
    exact ⟨metric, location, sign, number⟩

/-- Equal numbers stand in the same comparisons. -/
theorem holds_congr {a b : Double} (h : a.eq b = true) (comparison : Comparison) (value : Double) :
    comparison.holds value a = comparison.holds value b := by
  obtain ⟨p, ha, hb⟩ := Double.eq_iff.1 h
  cases comparison <;>
    simp only [Comparison.holds, Double.lt, Double.le, Double.eq, Double.compareBy, ha, hb]

/-- Conditions that are the same watch the same readings and find the same of each. -/
theorem alike_of_same {a b : Condition} (h : a.same b = true) :
    a.key = b.key ∧ ∀ value, a.evaluate value = b.evaluate value := by
  obtain ⟨metric, location, operator, threshold, expected⟩ := same_iff.1 h
  refine ⟨Prod.ext metric location, fun value => ?_⟩
  have sees : a.see value = b.see value := by unfold see isMotion; rw [metric]
  have compares (number : Double) : a.compares number = b.compares number := by
    unfold Condition.compares
    rw [operator]
    cases ha : a.threshold with
    | none =>
      cases hb : b.threshold with
      | none => rfl
      | some => rw [ha, hb] at threshold; cases threshold
    | some x =>
      cases hb : b.threshold with
      | none => rw [ha, hb] at threshold; cases threshold
      | some y =>
        rw [ha, hb] at threshold
        cases b.operator.bind Comparison.ofSymbol? with
        | none => rfl
        | some comparison => exact congrArg Except.ok (holds_congr threshold comparison number)
  have tests : a.test = b.test := by
    funext seen
    cases seen with
    | truth value => simp only [test, expected]
    | number number => exact compares number
  unfold evaluate
  rw [sees, tests]

/-- A condition that was read is the same as itself. -/
theorem Read.same_self {c : Condition} (h : c.Read) : c.same c = true := by
  refine same_iff.2 ⟨rfl, rfl, rfl, ?_, rfl⟩
  cases h with
  | motion => rfl
  | compare known number =>
    exact Double.eq_self_of_isFinite (Option.filter_eq_some_iff.1 number).2

end Condition

end HomeAutomation
