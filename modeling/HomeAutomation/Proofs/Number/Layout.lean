/-
  HomeAutomation.Proofs.Number.Layout

  What the layouts write.  It is a numeral whose figures have the value of the
  decimal that was laid out (`Layout.exists_figures`).  The shortest form of a
  double is therefore read as the double itself, and the brief form of a finite
  double as a double that is finite.
-/

import Mathlib.Tactic.FieldSimp
import Mathlib.Tactic.Ring
import HomeAutomation.Proofs.Number.Written

namespace HomeAutomation

open Number

-- ============================================================================
-- Decimals of one value
-- ============================================================================

namespace Decimal

/-- Zeros at the end of a coefficient are made up for by the exponent. -/
theorem value_eq_of_shift {a b : Decimal} (k : Nat)
    (coefficient : a.coefficient = b.coefficient * 10 ^ k)
    (exponent : a.exponent = b.exponent - k) : a.value = b.value := by
  rw [value, value, coefficient, exponent, zpow_sub₀ (by norm_num), zpow_natCast]
  push_cast
  field_simp

theorem value_stripZeros (limit : Nat) (d : Decimal) : (d.stripZeros limit).value = d.value := by
  fun_induction stripZeros limit d with
  | case1 => rfl
  | case2 d limit strip ih =>
    rw [ih]
    have zero : d.coefficient % 10 = 0 := by simp_all
    exact (value_eq_of_shift 1 (by dsimp only; omega) (by dsimp only; omega)).symm
  | case3 => rfl

theorem coefficient_stripZeros {limit : Nat} {d : Decimal} (filled : d.coefficient ≠ 0) :
    (d.stripZeros limit).coefficient ≠ 0 := by
  fun_induction stripZeros limit d with
  | case1 => exact filled
  | case2 d limit strip ih =>
    have zero : d.coefficient % 10 = 0 := by simp_all
    exact ih (by dsimp only; omega)
  | case3 => exact filled

end Decimal

-- ============================================================================
-- Layouts
-- ============================================================================

namespace Layout

variable {layout : Layout} {d : Decimal}

theorem length_toDigits (d : Decimal) :
    ((Nat.toDigits 10 d.coefficient).length : Int) = d.order + 1 - d.exponent := by
  unfold Decimal.order Decimal.digitCount
  omega

section Positional

variable (near : positionalFrom ≤ d.order ∧ d.order < layout.exponentFrom)

include near

/-- A whole number is written by its digits and zeros up to the ones. -/
theorem write_of_whole (whole : 0 ≤ d.exponent) :
    layout.write d = Nat.toDigits 10 d.coefficient ++ List.replicate d.exponent.toNat '0'
      ++ (if layout.keepsPlace then ['.', '0'] else []) := by
  have length := length_toDigits d
  have filled : 0 < (Nat.toDigits 10 d.coefficient).length := Nat.length_toDigits_pos
  have short : (Nat.toDigits 10 d.coefficient).length ≤ d.order.toNat + 1 := by omega
  have zeros : d.order.toNat + 1 - (Nat.toDigits 10 d.coefficient).length = d.exponent.toNat := by
    omega
  have order : 0 ≤ d.order := by omega
  cases keeps : layout.keepsPlace <;>
    simp [write, near, order, List.take_of_length_le short, List.drop_of_length_le short, zeros,
      keeps]

/-- With a point among its digits a number is written by them and the point. -/
theorem write_of_point (order : 0 ≤ d.order) (part : d.exponent < 0) :
    layout.write d = (Nat.toDigits 10 d.coefficient).take (d.order.toNat + 1)
      ++ '.' :: (Nat.toDigits 10 d.coefficient).drop (d.order.toNat + 1) := by
  have length := length_toDigits d
  have long : d.order.toNat + 1 < (Nat.toDigits 10 d.coefficient).length := by omega
  have zeros : d.order.toNat + 1 - (Nat.toDigits 10 d.coefficient).length = 0 := by omega
  have rest : (Nat.toDigits 10 d.coefficient).drop (d.order.toNat + 1) ≠ [] :=
    mt List.drop_eq_nil_iff.1 (by omega)
  simp only [write, near, order, decide_true, Bool.and_true, if_true, zeros, List.replicate_zero,
    List.append_nil]

/-- Below one a number is written by zeros in front of its digits. -/
theorem write_of_small (small : d.order < 0) :
    layout.write d = '0' :: '.' :: (List.replicate (-d.order - 1).toNat '0'
      ++ Nat.toDigits 10 d.coefficient) := by
  have order : ¬0 ≤ d.order := by omega
  simp [write, near, order]

end Positional

/-- Otherwise a number is written with an exponent, the point after its first digit. -/
theorem write_of_far (far : ¬(positionalFrom ≤ d.order ∧ d.order < layout.exponentFrom))
    {first : Char} {rest : List Char} (digits : Nat.toDigits 10 d.coefficient = first :: rest) :
    layout.write d = first ::
      ((if rest = [] then if layout.keepsExponentPlace then ['.', '0'] else [] else '.' :: rest)
        ++ exponentText d.order) := by
  have far' :
      (decide (positionalFrom ≤ d.order) && decide (d.order < layout.exponentFrom)) ≠ true := by
    simpa using far
  rw [write, if_neg far']
  simp only [digits]
  cases rest with
  | nil => cases layout.keepsExponentPlace <;> simp
  | cons second more => simp

/-- What figures have to do with the decimal that a layout writes by them. -/
structure Written (layout : Layout) (d : Decimal) (f : Figures) : Prop where
  valid : f.Valid
  text : layout.write d = f.text
  value : f.decimal.value = d.value
  unpadded : (d.coefficient = 0 → d.exponent = 0) → f.Unpadded
  /-- Something is after the digits of the whole, if the layout asks for it. -/
  placed : layout.keepsPlace = true → f.fraction ≠ [] ∨ f.exponent ≠ none

theorem unpadded_of_singleton {f : Figures} {c : Char} (one : f.whole = [c]) : f.Unpadded := by
  intro rest zero
  rw [one] at zero
  exact (List.cons.inj zero).2.symm

theorem written_of_far (far : ¬(positionalFrom ≤ d.order ∧ d.order < layout.exponentFrom)) :
    ∃ f, Written layout d f := by
  obtain ⟨first, rest, digits⟩ :=
    List.exists_cons_of_ne_nil (Nat.toDigits_ne_nil (n := d.coefficient) (b := 10))
  have length := length_toDigits d
  have isDigits := isDigit_toDigits d.coefficient
  have value := digitsValue_toDigits d.coefficient
  have text := write_of_far far digits
  rw [digits] at length isDigits value
  rw [List.length_cons] at length
  push_cast at length
  by_cases place : rest = [] ∧ layout.keepsExponentPlace = true
  · obtain ⟨rfl, keeps⟩ := place
    have digit := isDigits first List.mem_cons_self
    refine ⟨⟨[first], ['0'], some d.order⟩, ⟨List.cons_ne_nil _ _, ?_⟩, ?_, ?_,
      fun _ => unpadded_of_singleton rfl, fun _ => .inl (List.cons_ne_nil _ _)⟩
    · simpa using ⟨digit, rfl⟩
    · simp [text, keeps, Figures.text, Figures.fractionText, Figures.exponentText]
    · refine Decimal.value_eq_of_shift 1 ?_ ?_
      · rw [← value]
        exact digitsValue_append [first] ['0']
      · simp only [Figures.decimal, Option.getD_some, List.length_singleton]
        rw [List.length_nil] at length
        omega
  · refine ⟨⟨[first], rest, some d.order⟩, ⟨List.cons_ne_nil _ _, isDigits⟩, ?_, ?_,
      fun _ => unpadded_of_singleton rfl, fun _ => .inr (Option.some_ne_none _)⟩
    · by_cases alone : rest = []
      · have drops : layout.keepsExponentPlace = false := by simpa [alone] using place
        simp [text, alone, drops, Figures.text, Figures.fractionText, Figures.exponentText]
      · simp [text, alone, Figures.text, Figures.fractionText, Figures.exponentText]
    · refine Decimal.value_eq_of_shift 0 (by simpa [Figures.decimal] using value) ?_
      simp only [Figures.decimal, Option.getD_some]
      omega

theorem written_of_small (near : positionalFrom ≤ d.order ∧ d.order < layout.exponentFrom)
    (small : d.order < 0) : ∃ f, Written layout d f := by
  have length := length_toDigits d
  have filled : Nat.toDigits 10 d.coefficient ≠ [] := Nat.toDigits_ne_nil
  refine ⟨⟨['0'], List.replicate (-d.order - 1).toNat '0' ++ Nat.toDigits 10 d.coefficient, none⟩,
    ⟨List.cons_ne_nil _ _, fun c hc => ?_⟩, ?_, ?_, fun _ => unpadded_of_singleton rfl,
    fun _ => .inl (List.append_ne_nil_of_right_ne_nil _ filled)⟩
  · rw [List.mem_append, List.mem_append] at hc
    rcases hc with hc | hc | hc
    · exact isDigit_zeros 1 c hc
    · exact isDigit_zeros _ c hc
    · exact isDigit_toDigits _ c hc
  · simp [write_of_small near small, Figures.text, Figures.fractionText, Figures.exponentText,
      filled]
  · refine Decimal.value_eq_of_shift 0 ?_ ?_
    · have zeros := digitsValue_append (List.replicate ((-d.order - 1).toNat + 1) '0')
        (Nat.toDigits 10 d.coefficient)
      rw [digitsValue_zeros, digitsValue_toDigits, Nat.zero_mul, Nat.zero_add,
        List.replicate_succ] at zeros
      rw [Nat.pow_zero, Nat.mul_one]
      exact zeros
    · simp only [Figures.decimal, List.length_append, List.length_replicate, Option.getD_none]
      push_cast
      omega

theorem written_of_whole (near : positionalFrom ≤ d.order ∧ d.order < layout.exponentFrom)
    (whole : 0 ≤ d.exponent) : ∃ f, Written layout d f := by
  have filled : Nat.toDigits 10 d.coefficient ≠ [] := Nat.toDigits_ne_nil
  have isDigits : ∀ c ∈ Nat.toDigits 10 d.coefficient ++ List.replicate d.exponent.toNat '0',
      isDigit c = true := fun c hc =>
    (List.mem_append.1 hc).elim (isDigit_toDigits _ c) (isDigit_zeros _ c)
  have value : digitsValue (Nat.toDigits 10 d.coefficient ++ List.replicate d.exponent.toNat '0')
      = d.coefficient * 10 ^ d.exponent.toNat := by
    rw [digitsValue_append, digitsValue_toDigits, digitsValue_zeros, List.length_replicate,
      Nat.add_zero]
  have unpadded (zero : d.coefficient = 0 → d.exponent = 0) (rest : List Char)
      (same : Nat.toDigits 10 d.coefficient ++ List.replicate d.exponent.toNat '0' = '0' :: rest) :
      rest = [] := by
    by_cases none : d.coefficient = 0
    · rw [none, zero none] at same
      exact (List.cons.inj same).2.symm
    · obtain ⟨first, more, digits⟩ := List.exists_cons_of_ne_nil filled
      rw [digits, List.cons_append] at same
      rw [(List.cons.inj same).1] at digits
      exact absurd digits (toDigits_ne_zero_cons none more)
  have text := write_of_whole near whole
  cases keeps : layout.keepsPlace with
  | true =>
    refine ⟨⟨Nat.toDigits 10 d.coefficient ++ List.replicate d.exponent.toNat '0', ['0'], none⟩,
      ⟨List.append_ne_nil_of_left_ne_nil filled _, fun c hc => ?_⟩, ?_, ?_, unpadded,
      fun _ => .inl (List.cons_ne_nil _ _)⟩
    · exact (List.mem_append.1 hc).elim (isDigits c) (isDigit_zeros 1 c)
    · simp [text, keeps, Figures.text, Figures.fractionText, Figures.exponentText]
    · refine Decimal.value_eq_of_shift (d.exponent.toNat + 1) ?_ ?_
      · have places := digitsValue_append
          (Nat.toDigits 10 d.coefficient ++ List.replicate d.exponent.toNat '0') ['0']
        rw [value, Nat.mul_assoc] at places
        exact places
      · simp only [Figures.decimal, Option.getD_none, List.length_singleton]
        push_cast
        omega
  | false =>
    refine ⟨⟨Nat.toDigits 10 d.coefficient ++ List.replicate d.exponent.toNat '0', [], none⟩,
      ⟨List.append_ne_nil_of_left_ne_nil filled _, fun c hc => isDigits c (by simpa using hc)⟩, ?_,
      ?_, unpadded, fun h => by simp [keeps] at h⟩
    · simp [text, keeps, Figures.text, Figures.fractionText, Figures.exponentText]
    · refine Decimal.value_eq_of_shift d.exponent.toNat ?_ ?_
      · rw [← value, Figures.decimal, List.append_nil]
      · simp only [Figures.decimal, Option.getD_none, List.length_nil]
        push_cast
        omega

theorem written_of_point (near : positionalFrom ≤ d.order ∧ d.order < layout.exponentFrom)
    (order : 0 ≤ d.order) (part : d.exponent < 0) : ∃ f, Written layout d f := by
  have length := length_toDigits d
  have filled : Nat.toDigits 10 d.coefficient ≠ [] := Nat.toDigits_ne_nil
  have rest : (Nat.toDigits 10 d.coefficient).drop (d.order.toNat + 1) ≠ [] :=
    mt List.drop_eq_nil_iff.1 (by omega)
  have whole : (Nat.toDigits 10 d.coefficient).take (d.order.toNat + 1) ++
      (Nat.toDigits 10 d.coefficient).drop (d.order.toNat + 1) = Nat.toDigits 10 d.coefficient :=
    List.take_append_drop _ _
  refine ⟨⟨(Nat.toDigits 10 d.coefficient).take (d.order.toNat + 1),
    (Nat.toDigits 10 d.coefficient).drop (d.order.toNat + 1), none⟩, ⟨?_, ?_⟩, ?_, ?_, ?_,
    fun _ => .inl rest⟩
  · simp [filled]
  · intro c hc
    exact isDigit_toDigits _ c (whole ▸ hc)
  · simp [write_of_point near order part, Figures.text, Figures.fractionText, Figures.exponentText,
      rest]
  · refine Decimal.value_eq_of_shift 0 ?_ ?_
    · rw [Figures.decimal, whole, digitsValue_toDigits, Nat.pow_zero, Nat.mul_one]
    · simp only [Figures.decimal, Option.getD_none, List.length_drop]
      omega
  · intro zero more same
    obtain ⟨first, others, digits⟩ := List.exists_cons_of_ne_nil filled
    rw [digits, List.take_succ_cons] at same
    rw [(List.cons.inj same).1] at digits
    have none : d.coefficient ≠ 0 := fun none => by
      have := zero none
      omega
    exact absurd digits (toDigits_ne_zero_cons none others)

/-- A layout writes the figures of a numeral. -/
theorem exists_figures (layout : Layout) (d : Decimal) : ∃ f, Written layout d f := by
  by_cases near : positionalFrom ≤ d.order ∧ d.order < layout.exponentFrom
  · by_cases order : 0 ≤ d.order
    · by_cases whole : 0 ≤ d.exponent
      · exact written_of_whole near whole
      · exact written_of_point near order (by omega)
    · exact written_of_small near (by omega)
  · exact written_of_far near

end Layout

namespace Double

-- ============================================================================
-- The shortest form
-- ============================================================================

/-- What `readableDigits?` gives has been read back. -/
theorem rank_of_readableDigits? {count rank : Nat} {d : Decimal}
    (h : readableDigits? count rank = some d) : d.rank = rank := by
  unfold readableDigits? at h
  dsimp only at h
  split at h
  · rename_i reads
    cases h
    exact eq_of_beq reads
  · obtain ⟨reads, same⟩ := Option.ite_none_right_eq_some.1 h
    rw [← Option.some.inj same]
    exact eq_of_beq reads

/-- Powers of five turn a power of two below into one of ten. -/
theorem value_exactDecimal (rank : Nat) :
    (exactDecimal rank).value = (units rank : ℚ) / unitsPerOne := by
  have ten : (10 : ℚ) = 2 * 5 := by norm_num
  obtain ⟨k, one, five, power, exact⟩ : ∃ k : Nat, unitsPerOne = Nat.pow 2 k ∧
      ∃ five, five = Nat.pow 5 k ∧ exactDecimal rank = ⟨units rank * five, -k⟩ :=
    ⟨1074, by decide +kernel, Nat.pow 5 1074, by decide +kernel, rfl⟩
  rw [Decimal.value, one, exact, power]
  dsimp only
  rw [zpow_neg, zpow_natCast, ten, mul_pow, Nat.pow_eq, Nat.pow_eq]
  push_cast
  field_simp

theorem rank_exactDecimal (rank : Nat) : (exactDecimal rank).rank = rank := by
  have same := value_exactDecimal rank
  rw [← Decimal.fraction_eq_value] at same
  have fraction := (exactDecimal rank).fraction_pos
  refine ((nearestRank_mono fraction unitsPerOne_pos same.le).antisymm
    (nearestRank_mono unitsPerOne_pos fraction same.ge)).trans (nearestRank_units rank)

theorem rank_of_coefficient_eq_zero {d : Decimal} (zero : d.coefficient = 0) : d.rank = 0 := by
  have none : (⟨0, 0⟩ : Decimal).rank = 0 := by decide +kernel
  refine (Decimal.rank_congr ?_).trans none
  rw [Decimal.value_of_coefficient_eq_zero zero, Decimal.value_of_coefficient_eq_zero rfl]

/-- The fewest digits that read back as a magnitude do. -/
theorem rank_shortest (rank : Nat) : (shortest rank).rank = rank := by
  unfold shortest
  split
  · rename_i zero
    exact (rank_of_coefficient_eq_zero rfl).trans zero.symm
  · cases found : (List.range 17).findSome? fun below => readableDigits? (below + 1) rank with
    | none => exact rank_exactDecimal rank
    | some d =>
      obtain ⟨below, -, reads⟩ := List.exists_of_findSome?_eq_some found
      exact rank_of_readableDigits? reads

/-- Zero is written as one digit, so that it has no zeros in front. -/
theorem coefficient_shortest {rank : Nat} (zero : (shortest rank).coefficient = 0) :
    shortest rank = ⟨0, 0⟩ := by
  have none : rank = 0 := (rank_shortest rank).symm.trans (rank_of_coefficient_eq_zero zero)
  rw [shortest, if_pos none]

/-- The shortest form of a finite double has the figures of a numeral with a point or an exponent,
    and they are read as the double. -/
theorem exists_figures_repr (negative : Bool) (rank : Fin finiteRanks) :
    ∃ f : Figures, f.Valid ∧ f.Unpadded ∧ (f.fraction ≠ [] ∨ f.exponent ≠ none) ∧
      repr (finite negative rank) = signed negative f.text ∧
      f.decimal.toDouble negative = finite negative rank := by
  obtain ⟨f, valid, text, value, unpadded, placed⟩ :=
    Layout.exists_figures shortestLayout ((shortest rank.val).stripZeros 400)
  refine ⟨f, valid, unpadded fun zero => ?_, placed rfl, ?_, ?_⟩
  · have plain : (shortest rank.val).coefficient = 0 := by
      by_contra filled
      exact Decimal.coefficient_stripZeros filled zero
    rw [coefficient_shortest plain]
    rfl
  · rw [repr, text]
  · rw [Decimal.value_stripZeros] at value
    rw [Decimal.toDouble_eq, Decimal.rank_congr value, rank_shortest, ofRank, dif_pos rank.isLt]

-- ============================================================================
-- The brief form
-- ============================================================================

/-- A magnitude is below the power of ten after that of its first digit. -/
theorem units_lt_of_decimalOrder (rank : Nat) :
    (units rank : ℚ) / unitsPerOne < 10 ^ (decimalOrder rank + 1) := by
  have one : (0 : ℚ) < unitsPerOne := by exact_mod_cast unitsPerOne_pos
  obtain ⟨n, digits⟩ : ∃ n,
      Decimal.digitCount (units rank * Nat.pow 10 Decimal.orderLimit / unitsPerOne) = n := ⟨_, rfl⟩
  have filled : 0 < n := by
    rw [← digits]
    exact Nat.length_toDigits_pos
  have order : decimalOrder rank + 1 = n - Decimal.orderLimit := by
    rw [decimalOrder, digits]
    omega
  have below : units rank * Nat.pow 10 Decimal.orderLimit / unitsPerOne < 10 ^ n :=
    (Nat.length_toDigits_le_iff (by decide) filled).1 digits.le
  rw [Nat.div_lt_iff_lt_mul unitsPerOne_pos, Nat.pow_eq] at below
  rw [order, zpow_sub₀ (by norm_num), zpow_natCast, zpow_natCast,
    div_lt_div_iff₀ one (pow_pos (by norm_num) _)]
  generalize Decimal.orderLimit = limit, unitsPerOne = unit at below ⊢
  exact_mod_cast below

theorem scaledUnits_pos (rank : Nat) (power : Int) : 0 < (scaledUnits rank power).2 := by
  have one := unitsPerOne_pos
  unfold scaledUnits
  generalize unitsPerOne = unit at one ⊢
  split
  · exact one
  · exact Nat.mul_pos one (Nat.pow_pos (by decide))

theorem scaledUnits_eq (rank : Nat) (power : Int) :
    ((scaledUnits rank power).1 : ℚ) / (scaledUnits rank power).2
      = (units rank : ℚ) / unitsPerOne * 10 ^ power := by
  unfold scaledUnits
  generalize unitsPerOne = one
  split
  · rename_i up
    obtain ⟨n, rfl⟩ := Int.eq_ofNat_of_zero_le up
    simp only [Nat.pow_eq, Int.toNat_natCast, zpow_natCast]
    push_cast
    ring
  · rename_i down
    obtain ⟨n, rfl⟩ : ∃ n : Nat, power = -n := ⟨(-power).toNat, by omega⟩
    simp only [Nat.pow_eq, neg_neg, Int.toNat_natCast, zpow_neg, zpow_natCast]
    push_cast
    ring

theorem digitCount_mono {a b : Nat} (le : a ≤ b) : Decimal.digitCount a ≤ Decimal.digitCount b := by
  have filled : 0 < Decimal.digitCount b := Nat.length_toDigits_pos
  have high : b < 10 ^ Decimal.digitCount b :=
    (Nat.length_toDigits_le_iff (by decide) filled).1 (Nat.le_refl _)
  exact (Nat.length_toDigits_le_iff (by decide) filled).2 (by omega)

theorem decimalOrder_mono {rank rank' : Nat} (le : rank ≤ rank') :
    decimalOrder rank ≤ decimalOrder rank' := by
  have digits := digitCount_mono (Nat.div_le_div_right (c := unitsPerOne)
    (Nat.mul_le_mul_right (Nat.pow 10 Decimal.orderLimit) (units_mono le)))
  unfold decimalOrder
  omega

theorem roundDigits_mono {count rank rank' : Nat} (le : rank ≤ rank')
    (same : decimalOrder rank = decimalOrder rank') :
    (roundDigits count rank).value ≤ (roundDigits count rank').value := by
  have digits : (roundDigits count rank).coefficient ≤ (roundDigits count rank').coefficient := by
    unfold roundDigits scaledUnits
    rw [same]
    dsimp only
    generalize unitsPerOne = unit
    split
    · exact roundDiv_mono (Nat.mul_le_mul_right _ (units_mono le))
    · exact roundDiv_mono (units_mono le)
  have place : (roundDigits count rank).exponent = (roundDigits count rank').exponent :=
    congrArg (· - (count : Int) + 1) same
  rw [Decimal.value, Decimal.value, place]
  exact mul_le_mul_of_nonneg_right (by exact_mod_cast digits) (by positivity)

/-- Rounding goes up to the power of ten after that of the first digit at most. -/
theorem value_roundDigits_le (count rank : Nat) :
    (roundDigits count rank).value ≤ 10 ^ (decimalOrder rank + 1) := by
  have scaled := scaledUnits_eq rank (-(decimalOrder rank - count + 1))
  have positive := scaledUnits_pos rank (-(decimalOrder rank - count + 1))
  have below :
      (units rank : ℚ) / unitsPerOne * 10 ^ (-(decimalOrder rank - count + 1)) < 10 ^ count := by
    have power : (10 : ℚ) ^ count
        = 10 ^ (decimalOrder rank + 1) * 10 ^ (-(decimalOrder rank - count + 1)) := by
      rw [← zpow_add₀ (by norm_num), ← zpow_natCast]
      congr 1
      omega
    rw [power]
    exact mul_lt_mul_of_pos_right (units_lt_of_decimalOrder rank) (by positivity)
  rw [← scaled, div_lt_iff₀ (by exact_mod_cast positive)] at below
  have digits : (roundDigits count rank).coefficient ≤ 10 ^ count := by
    refine (roundDiv_le _ _).trans (Nat.succ_le_of_lt ?_)
    rw [Nat.div_lt_iff_lt_mul positive]
    exact_mod_cast below
  have power : (10 : ℚ) ^ (decimalOrder rank + 1)
      = (10 ^ count : Nat) * 10 ^ (roundDigits count rank).exponent := by
    rw [Nat.cast_pow, Nat.cast_ofNat, ← zpow_natCast, ← zpow_add₀ (by norm_num)]
    congr 1
    unfold roundDigits
    dsimp only
    omega
  rw [power, Decimal.value]
  exact mul_le_mul_of_nonneg_right (by exact_mod_cast digits) (by positivity)

/-- Rounded to six digits a finite magnitude stays finite: below the last power of ten there is
    room, and above it the digits of the largest magnitude are rounded down. -/
theorem rank_roundDigits_lt {rank : Nat} (finite : rank < finiteRanks) :
    (roundDigits briefDigits rank).rank < finiteRanks := by
  have most : rank ≤ finiteRanks - 1 := by omega
  have last : decimalOrder (finiteRanks - 1) = 308 := by decide +kernel
  by_cases low : decimalOrder rank ≤ 307
  · have room : (⟨1, 308⟩ : Decimal).rank < finiteRanks := by decide +kernel
    refine (Decimal.rank_mono ((value_roundDigits_le briefDigits rank).trans ?_)).trans_lt room
    rw [Decimal.value, Nat.cast_one, one_mul]
    exact zpow_le_zpow_right₀ (by norm_num) (by dsimp only; omega)
  · have order : decimalOrder rank = decimalOrder (finiteRanks - 1) := by
      have := decimalOrder_mono most
      omega
    have room : (roundDigits briefDigits (finiteRanks - 1)).rank < finiteRanks := by decide +kernel
    exact (Decimal.rank_mono (roundDigits_mono most order)).trans_lt room

/-- The brief form of a finite double has the figures of a numeral, and they are read as a finite
    double. -/
theorem exists_figures_brief (negative : Bool) (rank : Fin finiteRanks) :
    ∃ f : Figures, f.Valid ∧ brief (finite negative rank) = signed negative f.text ∧
      (f.decimal.toDouble negative).isFinite = true := by
  obtain ⟨d, written, small⟩ : ∃ d : Decimal,
      brief (finite negative rank) = signed negative (briefLayout.write d) ∧
        d.rank < finiteRanks := by
    by_cases zero : rank.val = 0
    · refine ⟨⟨0, 0⟩, by simp [brief, zero], ?_⟩
      rw [rank_of_coefficient_eq_zero rfl]
      decide
    · refine ⟨(roundDigits briefDigits rank.val).stripZeros 400, by simp only [brief, if_neg zero],
        ?_⟩
      rw [Decimal.rank_congr (Decimal.value_stripZeros _ _)]
      exact rank_roundDigits_lt rank.isLt
  obtain ⟨f, valid, text, value, -, -⟩ := Layout.exists_figures briefLayout d
  refine ⟨f, valid, by rw [written, text], ?_⟩
  rw [Decimal.toDouble_eq, Decimal.rank_congr value, ofRank, dif_pos small]
  rfl

end Double

end HomeAutomation
