/-
  HomeAutomation.Proofs.Number.Truncation

  Integer parts of double-precision numbers.  Magnitudes grow with their ranks,
  so a number between zero and another has an integer part between zero and that
  of the other.
-/

import Mathlib.Order.Monotone.Basic
import HomeAutomation.Number.Double

namespace HomeAutomation.Double

/-- A magnitude is followed by a larger one, in its binade or as the first of the next. -/
theorem units_le_succ (rank : Nat) : units rank ≤ units (rank + 1) := by
  unfold units
  have positive : 0 < Nat.pow 2 fractionBits := Nat.pow_pos (by decide)
  generalize Nat.pow 2 fractionBits = step at positive ⊢
  dsimp only
  by_cases small : rank < step
  · rw [if_pos small]
    split
    · omega
    · obtain rfl : rank + 1 = step := by omega
      rw [Nat.mod_self, Nat.div_self positive]
      simp
  · rw [if_neg small, if_neg (by omega)]
    have binade : 1 ≤ rank / step := (Nat.one_le_div_iff positive).2 (by omega)
    have short := Nat.mod_lt rank positive
    obtain ⟨q, hq⟩ : ∃ q, rank / step = q + 1 := ⟨rank / step - 1, by omega⟩
    have parts : rank = step * (q + 1) + rank % step := by
      rw [← hq, Nat.div_add_mod]
    by_cases last : rank % step + 1 = step
    · have next : rank + 1 = step * (q + 2) := by
        rw [Nat.mul_add step q 2]
        rw [Nat.mul_add step q 1] at parts
        omega
      rw [hq, next, Nat.mul_mod_right, Nat.mul_div_cancel_left _ positive]
      have double : Nat.pow 2 (q + 2 - 1) = Nat.pow 2 (q + 1 - 1) * 2 := Nat.pow_succ 2 q
      rw [double, Nat.add_zero, Nat.mul_comm (Nat.pow 2 (q + 1 - 1)) 2, ← Nat.mul_assoc]
      exact Nat.mul_le_mul_right _ (by omega)
    · have next : rank + 1 = rank % step + 1 + step * (q + 1) := by omega
      have within : rank % step + 1 < step := by omega
      rw [hq, next, Nat.add_mul_mod_self_left, Nat.mod_eq_of_lt within,
        Nat.add_mul_div_left _ _ positive, Nat.div_eq_of_lt within, Nat.zero_add]
      exact Nat.mul_le_mul_right _ (by omega)

/-- Magnitudes grow with their ranks. -/
theorem units_mono : Monotone units := monotone_nat_of_le_succ units_le_succ

theorem zero_eq : (0 : Double) = finite false ⟨0, by decide⟩ := by decide +kernel

theorem le_finite_iff {negative negative' : Bool} {rank rank' : Fin finiteRanks} :
    (finite negative rank).le (finite negative' rank') = true ↔
      (if negative then -(rank.val : Int) else rank.val)
        ≤ if negative' then -(rank'.val : Int) else rank'.val := by
  simp [le, compareBy, place?]

/-- A number between zero and another has an integer part between zero and that of the other. -/
theorem truncate?_between {d high : Double} {level top : Int} (low : Double.le 0 d = true)
    (le : d.le high = true) (whole : d.truncate? = some level)
    (whole' : high.truncate? = some top) : 0 ≤ level ∧ level ≤ top := by
  cases d with
  | nan | infinite => cases whole
  | finite negative rank =>
    cases high with
    | nan | infinite => cases whole'
    | finite negative' rank' =>
      rw [zero_eq, le_finite_iff] at low
      rw [le_finite_iff] at le
      obtain rfl := Option.some.inj whole
      obtain rfl := Option.some.inj whole'
      have grows (h : rank.val ≤ rank'.val) :
          units rank.val / unitsPerOne ≤ units rank'.val / unitsPerOne :=
        Nat.div_le_div_right (units_mono h)
      have none (h : rank.val = 0) : units rank.val / unitsPerOne = 0 := by
        rw [h]
        decide +kernel
      have none' (h : rank'.val = 0) : units rank'.val / unitsPerOne = 0 := by
        rw [h]
        decide +kernel
      generalize units rank.val / unitsPerOne = part at grows none ⊢
      generalize units rank'.val / unitsPerOne = part' at grows none' ⊢
      cases negative <;> cases negative' <;>
        simp only [Bool.false_eq_true, if_false, if_true] at low le ⊢ <;> omega

end HomeAutomation.Double
