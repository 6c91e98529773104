/-
  HomeAutomation.Proofs.Number.Nearest

  The double nearest to a number.  A larger number has a nearest double of no
  smaller rank, so that the double nearest to a decimal depends on its value
  alone, however the decimal is written.  A number that is a double is the one
  nearest to itself, and natural numbers that fit a mantissa are doubles.
-/

import Mathlib.Algebra.Order.Field.Power
import Mathlib.Data.Nat.Log
import Mathlib.Data.Rat.Cast.Order
import HomeAutomation.Number.Decimal
import HomeAutomation.Proofs.Number.Truncation

namespace HomeAutomation

-- ============================================================================
-- Rounded quotients
-- ============================================================================

namespace Number

theorem le_roundDiv (num den : Nat) : num / den ≤ roundDiv num den := by
  unfold roundDiv
  dsimp only
  split_ifs <;> omega

theorem roundDiv_le (num den : Nat) : roundDiv num den ≤ num / den + 1 := by
  unfold roundDiv
  dsimp only
  split_ifs <;> omega

/-- A quotient is rounded as it is when it is extended. -/
theorem roundDiv_mul_right (num den : Nat) {k : Nat} (positive : 0 < k) :
    roundDiv (num * k) (den * k) = roundDiv num den := by
  have twice (rest : Nat) : 2 * (rest * k) = 2 * rest * k := (Nat.mul_assoc ..).symm
  unfold roundDiv
  simp only [Nat.mul_div_mul_right _ _ positive, Nat.mul_mod_mul_right, twice,
    Nat.mul_lt_mul_right positive]

theorem roundDiv_mono {num num' den : Nat} (le : num ≤ num') :
    roundDiv num den ≤ roundDiv num' den := by
  have quotients : num / den ≤ num' / den := Nat.div_le_div_right le
  rcases quotients.lt_or_eq with less | same
  · have := roundDiv_le num den
    have := le_roundDiv num' den
    omega
  · have parts := Nat.div_add_mod num den
    have parts' := Nat.div_add_mod num' den
    rw [same] at parts
    unfold roundDiv
    simp only [same]
    generalize den * (num' / den) = whole at parts parts'
    split_ifs <;> omega

/-- What divides evenly is not rounded. -/
theorem roundDiv_mul_cancel (whole : Nat) {den : Nat} (positive : 0 < den) :
    roundDiv (whole * den) den = whole := by
  simp [roundDiv, Nat.mul_div_cancel _ positive, positive]

end Number

namespace Double

open Number

-- ============================================================================
-- The rank of the nearest double
-- ============================================================================

/-- The binade of a magnitude, given by its integer part in units: how many times the spacing is
    twice that of the lowest. -/
def binade (whole : Nat) : Nat := whole.log2 - fractionBits

theorem nearestRank_eq (num den : Nat) :
    nearestRank num den = binade (num * unitsPerOne / den) * 2 ^ 52
      + roundDiv (num * unitsPerOne) (den * 2 ^ binade (num * unitsPerOne / den)) := rfl

theorem binade_mono {whole whole' : Nat} (le : whole ≤ whole') : binade whole ≤ binade whole' := by
  unfold binade
  rw [Nat.log2_eq_log_two, Nat.log2_eq_log_two]
  exact Nat.sub_le_sub_right (Nat.log_mono_right le) _

/-- The mantissa that is nearest to a magnitude may be that of the first in the next binade. -/
theorem mantissa_le (scaled den : Nat) :
    roundDiv scaled (den * 2 ^ binade (scaled / den)) ≤ 2 ^ 53 := by
  have whole : scaled / den < 2 ^ (binade (scaled / den) + 53) := by
    have log := Nat.lt_log2_self (n := scaled / den)
    refine log.trans_le (Nat.pow_le_pow_right (by decide) ?_)
    unfold binade fractionBits
    omega
  have quotient : scaled / (den * 2 ^ binade (scaled / den)) < 2 ^ 53 := by
    rw [← Nat.div_div_eq_div_mul, Nat.div_lt_iff_lt_mul (Nat.two_pow_pos _), ← Nat.pow_add,
      Nat.add_comm]
    exact whole
  have := roundDiv_le scaled (den * 2 ^ binade (scaled / den))
  omega

/-- Above the lowest binade a mantissa has all its bits. -/
theorem le_mantissa {scaled den : Nat} (above : 0 < binade (scaled / den)) :
    2 ^ 52 ≤ roundDiv scaled (den * 2 ^ binade (scaled / den)) := by
  unfold binade fractionBits at above
  have filled : scaled / den ≠ 0 := by
    intro zero
    rw [zero] at above
    simp at above
  have whole : 2 ^ (binade (scaled / den) + 52) ≤ scaled / den := by
    refine (Nat.le_log2 filled).1 ?_
    unfold binade fractionBits
    omega
  have quotient : 2 ^ 52 ≤ scaled / (den * 2 ^ binade (scaled / den)) := by
    rw [← Nat.div_div_eq_div_mul, Nat.le_div_iff_mul_le (Nat.two_pow_pos _), ← Nat.pow_add,
      Nat.add_comm]
    exact whole
  exact quotient.trans (le_roundDiv _ _)

theorem nearestRank_mul_right (num den : Nat) {k : Nat} (positive : 0 < k) :
    nearestRank (num * k) (den * k) = nearestRank num den := by
  rw [nearestRank_eq, nearestRank_eq, Nat.mul_right_comm num k, Nat.mul_div_mul_right _ _ positive,
    Nat.mul_right_comm den k, roundDiv_mul_right _ _ positive]

theorem nearestRank_mono_num {num num' : Nat} (le : num ≤ num') (den : Nat) :
    nearestRank num den ≤ nearestRank num' den := by
  have scaled : num * unitsPerOne ≤ num' * unitsPerOne := Nat.mul_le_mul_right _ le
  have binades := binade_mono (Nat.div_le_div_right (c := den) scaled)
  rw [nearestRank_eq, nearestRank_eq]
  rcases binades.lt_or_eq with less | same
  · have low := mantissa_le (num * unitsPerOne) den
    have high : 2 ^ 52 ≤ roundDiv (num' * unitsPerOne)
        (den * 2 ^ binade (num' * unitsPerOne / den)) := le_mantissa (by omega)
    omega
  · rw [same]
    exact Nat.add_le_add_left (roundDiv_mono scaled) _

/-- A larger number has a nearest double of no smaller rank. -/
theorem nearestRank_mono {num den num' den' : Nat} (positive : 0 < den) (positive' : 0 < den')
    (le : (num : ℚ) / den ≤ num' / den') : nearestRank num den ≤ nearestRank num' den' := by
  rw [div_le_div_iff₀ (by exact_mod_cast positive) (by exact_mod_cast positive')] at le
  rw [← nearestRank_mul_right num den positive', ← nearestRank_mul_right num' den' positive,
    Nat.mul_comm den' den]
  exact nearestRank_mono_num (by exact_mod_cast le) _

theorem unitsPerOne_pos : 0 < unitsPerOne := by decide +kernel

/-- A double is the one nearest to itself. -/
theorem nearestRank_units (rank : Nat) : nearestRank (units rank) unitsPerOne = rank := by
  have one := unitsPerOne_pos
  rw [nearestRank_eq, Nat.mul_div_cancel _ one]
  by_cases low : rank < 2 ^ 52
  · have same : units rank = rank := if_pos low
    have lowest : binade rank = 0 := by
      unfold binade fractionBits
      by_cases zero : rank = 0
      · rw [zero]
        rfl
      · have := (Nat.log2_lt zero).2 low
        omega
    rw [same, lowest, Nat.pow_zero, Nat.mul_one, roundDiv_mul_cancel _ one, Nat.zero_mul,
      Nat.zero_add]
  · obtain ⟨q, hq⟩ : ∃ q, rank / 2 ^ 52 = q + 1 :=
      ⟨rank / 2 ^ 52 - 1, by
        have := (Nat.one_le_div_iff (by decide : 0 < 2 ^ 52)).2 (Nat.le_of_not_lt low)
        omega⟩
    have rest := Nat.mod_lt rank (by decide : 0 < 2 ^ 52)
    have parts := Nat.div_add_mod rank (2 ^ 52)
    have same : units rank = (2 ^ 52 + rank % 2 ^ 52) * 2 ^ q := by
      have scaled : units rank = (2 ^ 52 + rank % 2 ^ 52) * 2 ^ (rank / 2 ^ 52 - 1) := if_neg low
      rw [scaled, hq, Nat.add_sub_cancel]
    have here : binade (units rank) = q := by
      have log : ((2 ^ 52 + rank % 2 ^ 52) * 2 ^ q).log2 = q + 52 := by
        have filled : (2 ^ 52 + rank % 2 ^ 52) * 2 ^ q ≠ 0 :=
          (Nat.mul_pos (by omega) (Nat.two_pow_pos _)).ne'
        refine (Nat.log2_eq_iff filled).2 ⟨?_, ?_⟩
        · rw [Nat.pow_add, Nat.mul_comm]
          exact Nat.mul_le_mul_right _ (Nat.le_add_right _ _)
        · rw [Nat.add_assoc, Nat.pow_add, Nat.mul_comm (2 ^ q)]
          exact Nat.mul_lt_mul_of_pos_right (by omega) (Nat.two_pow_pos _)
      rw [same, binade, fractionBits, log, Nat.add_sub_cancel]
    rw [here, same, Nat.mul_assoc, Nat.mul_comm (2 ^ q),
      roundDiv_mul_cancel _ (Nat.mul_pos one (Nat.two_pow_pos _))]
    omega

/-- A natural number that fits a mantissa is the magnitude of a double. -/
theorem exists_units_eq {n : Nat} (short : n < 2 ^ 53) : ∃ rank, units rank = n * unitsPerOne := by
  rcases n.eq_zero_or_pos with rfl | filled
  · exact ⟨0, by rw [Nat.zero_mul]; rfl⟩
  have low := Nat.log2_self_le filled.ne'
  have high : n < 2 ^ (n.log2 + 1) := Nat.lt_log2_self
  have order : n.log2 < 53 := (Nat.log2_lt filled.ne').2 short
  -- shifted by `s`, the number fills the mantissa
  obtain ⟨s, hs⟩ : ∃ s, n.log2 + s = 52 := ⟨52 - n.log2, by omega⟩
  have least : 2 ^ 52 ≤ n * 2 ^ s := by
    rw [← hs, Nat.pow_add]
    exact Nat.mul_le_mul_right _ low
  have most : n * 2 ^ s < 2 ^ 53 := by
    rw [show 53 = n.log2 + 1 + s by omega, Nat.pow_add]
    exact Nat.mul_lt_mul_of_pos_right high (Nat.two_pow_pos _)
  obtain ⟨k, hk, one⟩ : ∃ k, k = 1074 ∧ unitsPerOne = Nat.pow 2 k :=
    ⟨1074, rfl, by decide +kernel⟩
  refine ⟨2 ^ 52 * (k - s + 1) + (n * 2 ^ s - 2 ^ 52), ?_⟩
  generalize hrank : 2 ^ 52 * (k - s + 1) + (n * 2 ^ s - 2 ^ 52) = rank
  have quotient : rank / 2 ^ 52 = k - s + 1 := by omega
  have rest : rank % 2 ^ 52 = n * 2 ^ s - 2 ^ 52 := by omega
  have scaled : units rank = (2 ^ 52 + rank % 2 ^ 52) * 2 ^ (rank / 2 ^ 52 - 1) :=
    if_neg (show ¬rank < 2 ^ 52 by omega)
  rw [scaled, quotient, rest, Nat.add_sub_cancel' least, Nat.add_sub_cancel, one, Nat.pow_eq,
    ← pow_mul_pow_sub 2 (show s ≤ k by omega), Nat.mul_assoc]

theorem ofRank_le {rank rank' : Nat} (le : rank ≤ rank') :
    (ofRank false rank).le (ofRank false rank') = true := by
  have place (rank : Nat) : (ofRank false rank).place? = some (min rank finiteRanks : Int) := by
    unfold ofRank
    split
    · simp [place?]
      omega
    · simp [place?]
      omega
  simp only [Double.le, compareBy, place, decide_eq_true_eq]
  exact min_le_min_right _ (Int.ofNat_le.2 le)

end Double

-- ============================================================================
-- Decimals
-- ============================================================================

namespace Decimal

open Double

/-- The value of a decimal. -/
def value (d : Decimal) : ℚ := d.coefficient * 10 ^ d.exponent

/-- The rank of the double nearest to a decimal. -/
def rank (d : Decimal) : Nat := nearestRank d.fraction.1 d.fraction.2

theorem fraction_pos (d : Decimal) : 0 < d.fraction.2 := by
  unfold fraction
  split
  · exact Nat.one_pos
  · exact Nat.pow_pos (by decide)

theorem fraction_eq_value (d : Decimal) : (d.fraction.1 : ℚ) / d.fraction.2 = d.value := by
  unfold fraction value
  obtain ⟨coefficient, exponent⟩ := d
  dsimp only
  split
  · rename_i whole
    obtain ⟨n, rfl⟩ := Int.eq_ofNat_of_zero_le whole
    simp [Nat.pow_eq]
  · rename_i part
    obtain ⟨n, rfl⟩ : ∃ n : Nat, exponent = -n := ⟨(-exponent).toNat, by omega⟩
    simp [Nat.pow_eq, div_eq_mul_inv]

/-- A larger decimal has a nearest double of no smaller rank. -/
theorem rank_mono {a b : Decimal} (le : a.value ≤ b.value) : a.rank ≤ b.rank :=
  nearestRank_mono a.fraction_pos b.fraction_pos (by
    rw [a.fraction_eq_value, b.fraction_eq_value]
    exact le)

/-- The nearest double depends on the value alone. -/
theorem rank_congr {a b : Decimal} (same : a.value = b.value) : a.rank = b.rank :=
  (rank_mono same.le).antisymm (rank_mono same.ge)

/-- The order is the power of ten between which and the next the value lies. -/
theorem value_between {d : Decimal} (filled : d.coefficient ≠ 0) :
    (10 : ℚ) ^ d.order ≤ d.value ∧ d.value < 10 ^ (d.order + 1) := by
  obtain ⟨coefficient, exponent⟩ := d
  dsimp only at filled
  obtain ⟨n, digits⟩ : ∃ n, digitCount coefficient = n + 1 :=
    ⟨digitCount coefficient - 1, by
      have : 0 < digitCount coefficient := Nat.length_toDigits_pos
      omega⟩
  have high : coefficient < 10 ^ (n + 1) :=
    (Nat.length_toDigits_le_iff (by decide) (by omega)).1 digits.le
  have low : 10 ^ n ≤ coefficient := by
    by_contra small
    cases n with
    | zero => omega
    | succ n =>
      have short : digitCount coefficient ≤ n + 1 :=
        (Nat.length_toDigits_le_iff (by decide) (by omega)).2 (by omega)
      omega
  have order : (Decimal.mk coefficient exponent).order = exponent + n := by
    unfold Decimal.order
    rw [digits]
    push_cast
    omega
  have place : (0 : ℚ) < 10 ^ exponent := by positivity
  have low' : ((10 ^ n : ℕ) : ℚ) ≤ coefficient := by exact_mod_cast low
  have high' : (coefficient : ℚ) < ((10 ^ (n + 1) : ℕ) : ℚ) := by exact_mod_cast high
  rw [order, value]
  dsimp only
  constructor
  · rw [zpow_add₀ (by norm_num), mul_comm]
    exact mul_le_mul_of_nonneg_right (by exact_mod_cast low') place.le
  · rw [add_assoc, zpow_add₀ (by norm_num), mul_comm ((10 : ℚ) ^ exponent)]
    exact mul_lt_mul_of_pos_right (by exact_mod_cast high') place

theorem value_of_coefficient_eq_zero {d : Decimal} (zero : d.coefficient = 0) : d.value = 0 := by
  simp [value, zero]

/-- What is settled by the order alone is as if the decimal had been rounded. -/
theorem toDouble_eq (negative : Bool) (d : Decimal) :
    d.toDouble negative = ofRank negative d.rank := by
  have none : nearestRank 0 1 = 0 := by decide +kernel
  have least : (⟨1, -400⟩ : Decimal).rank = 0 := by decide +kernel
  have most : finiteRanks ≤ (⟨1, 400⟩ : Decimal).rank := by decide +kernel
  unfold toDouble
  split
  · rename_i zero
    have small := rank_mono (a := d) (b := ⟨0, 0⟩) (by
      rw [value_of_coefficient_eq_zero zero, value_of_coefficient_eq_zero rfl])
    have rank : d.rank = 0 := Nat.le_zero.1 (small.trans none.le)
    rw [rank, Double.nearest, none]
  · rename_i filled
    obtain ⟨low, high⟩ := value_between filled
    split
    · rename_i tiny
      have small := rank_mono (a := d) (b := ⟨1, -400⟩) (by
        refine high.le.trans ?_
        rw [value]
        dsimp only
        rw [Nat.cast_one, one_mul]
        exact zpow_le_zpow_right₀ (by norm_num) (by unfold orderLimit at tiny; omega))
      have rank : d.rank = 0 := Nat.le_zero.1 (small.trans least.le)
      rw [rank, Double.nearest, none]
    · split
      · rename_i huge
        have large := rank_mono (a := ⟨1, 400⟩) (b := d) (by
          refine le_trans ?_ low
          rw [value]
          dsimp only
          rw [Nat.cast_one, one_mul]
          exact zpow_le_zpow_right₀ (by norm_num) (by unfold orderLimit at huge; omega))
        rw [ofRank, dif_neg (by omega)]
      · rfl

/-- Decimals are read in the order of their values. -/
theorem toDouble_le {a b : Decimal} (le : a.value ≤ b.value) :
    (a.toDouble false).le (b.toDouble false) = true := by
  rw [toDouble_eq, toDouble_eq]
  exact ofRank_le (rank_mono le)

/-- A natural number that fits a mantissa is the whole part of the double it is read as. -/
theorem truncate?_toDouble {n : Nat} (short : n < 2 ^ 53) :
    ((⟨n, 0⟩ : Decimal).toDouble false).truncate? = some (n : Int) := by
  obtain ⟨rank, exact⟩ := exists_units_eq short
  have same : (⟨n, 0⟩ : Decimal).rank = rank := by
    have fraction : (⟨n, 0⟩ : Decimal).fraction = (n, 1) := by simp [Decimal.fraction]
    rw [Decimal.rank, fraction, ← nearestRank_mul_right n 1 unitsPerOne_pos, ← exact, Nat.one_mul,
      nearestRank_units]
  have finite : rank < finiteRanks := by
    by_contra far
    have large : 2 ^ 53 * unitsPerOne ≤ units finiteRanks := by decide +kernel
    have bound := large.trans (units_mono (Nat.le_of_not_lt far))
    rw [exact] at bound
    exact absurd (Nat.le_of_mul_le_mul_right bound unitsPerOne_pos) (Nat.not_le.2 short)
  rw [toDouble_eq, same, ofRank, dif_pos finite, truncate?, exact,
    Nat.mul_div_cancel _ unitsPerOne_pos, if_neg (by decide)]

end Decimal

end HomeAutomation
