/-
  HomeAutomation.Proofs.Text.LowerCase

  Lower-casing.  The characters that lower-casing gives are settled: no run of
  the table maps them, so that lower-casing a second time changes nothing.  That
  is checked run against run, not character by character.  Blanks are settled,
  and as they carry no case and are not looked through, a text may be lower-cased
  piece by piece between them.
-/

import HomeAutomation.Proofs.Text.Words
import HomeAutomation.Text.LowerCase

namespace HomeAutomation.Text

-- ============================================================================
-- Runs
-- ============================================================================

namespace CaseRun

/-- Where a run maps its first character. -/
def low (run : CaseRun) : Nat := (run.first + run.shift).toNat

/-- Where a run maps its last character. -/
def high (run : CaseRun) : Nat := (run.last + run.shift).toNat

/-- Whether no character that a run gives is mapped by another run. -/
def misses (run other : CaseRun) : Bool :=
  run.high.blt other.first || other.last.blt run.low ||
    (other.step == 2 && (run.step == 2 || run.first == run.last) &&
      (run.low + other.first) % 2 == 1)

theorem covers_iff {run : CaseRun} {n : Nat} :
    run.covers n = true ↔ run.first ≤ n ∧ n ≤ run.last ∧ (n - run.first) % run.step = 0 := by
  simp [covers, and_assoc]

theorem not_covers_of_misses {run other : CaseRun} (h : run.misses other = true)
    (positive : 0 ≤ run.first + run.shift) {n : Nat} (covered : run.covers n = true) :
    other.covers (n + run.shift).toNat = false := by
  obtain ⟨first, last, step⟩ := covers_iff.1 covered
  rw [Bool.eq_false_iff, Ne, covers_iff]
  rintro ⟨first', last', step'⟩
  simp only [misses, Bool.or_eq_true, Bool.and_eq_true, Nat.blt_eq, beq_iff_eq] at h
  simp only [low, high] at h
  obtain (below | above) | ⟨⟨even, even' | single⟩, odd⟩ := h
  · omega
  · omega
  · rw [even] at step'
    rw [even'] at step
    omega
  · rw [even] at step'
    omega

/-- The capital dotted I as a run, for comparison with the others. -/
def dottedI : CaseRun := ⟨0x130, 0x130, 1, 0⟩

/-- Whether a run gives characters, and none that is mapped further. -/
def isFinal (run : CaseRun) : Bool :=
  0 ≤ run.first + run.shift && (run.high < 0xD800 || 0xDFFF < run.low && run.high < 0x110000) &&
    (dottedI :: caseRuns).all run.misses

end CaseRun

/-- The one run of ASCII characters comes first. -/
theorem exists_caseRuns_eq : ∃ rest, caseRuns = ⟨0x41, 0x5A, 1, 32⟩ :: rest ∧
    rest.all (0x80 ≤ ·.first) = true := ⟨_, rfl, by decide +kernel⟩

-- ============================================================================
-- Settled characters
-- ============================================================================

/-- Whether lower-casing leaves a character alone. -/
def IsSettled (c : Char) : Prop :=
  ∀ run ∈ CaseRun.dottedI :: caseRuns, run.covers c.toNat = false

instance (c : Char) : Decidable (IsSettled c) := by unfold IsSettled; infer_instance

theorem IsSettled.ne_sigma {c : Char} (h : IsSettled c) : c ≠ 'Σ' := by
  rintro rfl
  revert h
  decide +kernel

theorem IsSettled.ne_dottedI {c : Char} (h : IsSettled c) : c.toNat ≠ 0x130 := fun heq => by
  have plain := h _ List.mem_cons_self
  rw [heq] at plain
  cases plain

/-- The lower-case form of an ASCII character. -/
theorem toLower_ascii : ∀ n < 0x80, (Char.ofNat n).toLower
    = if 0x41 ≤ n ∧ n ≤ 0x5A then Char.ofNat (n + 32 : Int).toNat else Char.ofNat n := by
  decide +kernel

/-- Lower-casing goes by the table alone: the runs give the right result for ASCII letters too. -/
theorem lowerChar_eq (c : Char) :
    lowerChar c = if c.toNat = 0x130 then ['i', '\u0307'] else
      match caseRuns.find? (·.covers c.toNat) with
      | some run => [Char.ofNat (c.toNat + run.shift).toNat]
      | none => [c] := by
  unfold lowerChar
  split
  · rename_i ascii
    rw [if_neg (by omega)]
    obtain ⟨rest, split, beyond⟩ := exists_caseRuns_eq
    have lowered := toLower_ascii c.toNat ascii
    rw [Char.ofNat_toNat] at lowered
    rw [split, lowered]
    by_cases upper : 0x41 ≤ c.toNat ∧ c.toNat ≤ 0x5A
    · have covered : CaseRun.covers ⟨0x41, 0x5A, 1, 32⟩ c.toNat = true :=
        CaseRun.covers_iff.2 ⟨upper.1, upper.2, Nat.mod_one _⟩
      rw [if_pos upper, List.find?_cons, covered]
    · have none : List.find? (·.covers c.toNat) (⟨0x41, 0x5A, 1, 32⟩ :: rest) = none := by
        refine List.find?_eq_none.2 (List.forall_mem_cons.2 ⟨?_, fun run hr => ?_⟩)
        · rw [CaseRun.covers_iff]
          exact fun h => upper ⟨h.1, h.2.1⟩
        · rw [CaseRun.covers_iff]
          have far := of_decide_eq_true (List.all_eq_true.1 beyond run hr)
          omega
      rw [if_neg upper, none]
  · rfl

theorem IsSettled.lowerChar_eq {c : Char} (h : IsSettled c) : lowerChar c = [c] := by
  have none : caseRuns.find? (·.covers c.toNat) = none :=
    List.find?_eq_none.2 fun run hr => by simp [h run (List.mem_cons_of_mem _ hr)]
  rw [Text.lowerChar_eq, if_neg h.ne_dottedI, none]

/-- The characters that lower-casing gives without the table. -/
theorem isSettled_chosen {c : Char} (h : c ∈ ['i', '\u0307', 'ς', 'σ']) : IsSettled c := by
  have apart : ((CaseRun.dottedI :: caseRuns).all fun run =>
      ['i', '\u0307', 'ς', 'σ'].all fun chosen => !run.covers chosen.toNat) = true := by
    decide +kernel
  intro run hr
  have misses := List.all_eq_true.1 (List.all_eq_true.1 apart run hr) c h
  simpa using misses

theorem isFinal_caseRuns : caseRuns.all (·.isFinal) = true := by decide +kernel

/-- What a run maps a character to, by its number. -/
theorem CaseRun.toNat_of_covers {run : CaseRun} (h : run ∈ caseRuns) {n : Nat}
    (covered : run.covers n = true) :
    (Char.ofNat (n + run.shift).toNat).toNat = (n + run.shift).toNat := by
  have final := List.all_eq_true.1 isFinal_caseRuns run h
  simp only [isFinal, Bool.and_eq_true, Bool.or_eq_true, decide_eq_true_eq] at final
  obtain ⟨⟨positive, valid⟩, -⟩ := final
  have isChar : (n + run.shift).toNat.isValidChar := by
    obtain ⟨first, last, -⟩ := covers_iff.1 covered
    simp only [low, high] at valid
    unfold Nat.isValidChar
    omega
  rw [Char.ofNat, dif_pos isChar]
  rfl

/-- A run maps its characters to settled ones. -/
theorem CaseRun.isSettled_of_covers {run : CaseRun} (h : run ∈ caseRuns) {n : Nat}
    (covered : run.covers n = true) : IsSettled (Char.ofNat (n + run.shift).toNat) := by
  have final := List.all_eq_true.1 isFinal_caseRuns run h
  simp only [isFinal, Bool.and_eq_true, decide_eq_true_eq, List.all_eq_true] at final
  obtain ⟨⟨positive, -⟩, apart⟩ := final
  intro other ho
  rw [toNat_of_covers h covered]
  exact not_covers_of_misses (apart other ho) positive covered

/-- Lower-casing gives settled characters. -/
theorem isSettled_of_mem_lowerChar {c d : Char} (h : d ∈ lowerChar c) : IsSettled d := by
  rw [lowerChar_eq] at h
  split at h
  · exact isSettled_chosen (List.mem_append_left ['ς', 'σ'] h)
  · rename_i plain
    cases found : caseRuns.find? (·.covers c.toNat) with
    | some run =>
      rw [found] at h
      obtain rfl := List.mem_singleton.1 h
      have covered := List.find?_some found
      exact CaseRun.isSettled_of_covers (List.mem_of_find?_eq_some found) covered
    | none =>
      rw [found] at h
      obtain rfl := List.mem_singleton.1 h
      refine List.forall_mem_cons.2 ⟨?_, fun run hr => ?_⟩
      · rw [Bool.eq_false_iff, Ne, CaseRun.covers_iff]
        simp only [CaseRun.dottedI]
        omega
      · simpa using List.find?_eq_none.1 found run hr

-- ============================================================================
-- Texts
-- ============================================================================

theorem isSettled_of_mem_lowerFrom {afterCased : Bool} {cs : List Char} {d : Char}
    (h : d ∈ lowerFrom afterCased cs) : IsSettled d := by
  induction cs generalizing afterCased with
  | nil => cases h
  | cons c rest ih =>
    unfold lowerFrom at h
    dsimp only at h
    rcases List.mem_append.1 h with h | h
    · split at h
      · split at h <;> obtain rfl := List.mem_singleton.1 h <;> exact isSettled_chosen (by simp)
      · exact isSettled_of_mem_lowerChar h
    · exact ih h

/-- A text of settled characters is in lower case. -/
theorem lowerFrom_of_isSettled {cs : List Char} (h : ∀ c ∈ cs, IsSettled c) (afterCased : Bool) :
    lowerFrom afterCased cs = cs := by
  induction cs generalizing afterCased with
  | nil => rfl
  | cons c rest ih =>
    have settled := h c List.mem_cons_self
    unfold lowerFrom
    dsimp only
    rw [if_neg settled.ne_sigma, settled.lowerChar_eq,
      ih fun x hx => h x (List.mem_cons_of_mem _ hx)]
    rfl

/-- Whether two ranges have no character in common. -/
def CharRange.misses (range other : CharRange) : Bool :=
  range.last < other.first || other.last < range.first

theorem not_inRanges_of_misses {ranges : List CharRange} (others : List CharRange)
    (apart : (ranges.all fun range => others.all range.misses) = true) {c : Char}
    (h : inRanges ranges c = true) : inRanges others c = false := by
  obtain ⟨range, hr, inside⟩ := List.any_eq_true.1 h
  refine List.any_eq_false.2 fun other ho inside' => ?_
  have misses := List.all_eq_true.1 (List.all_eq_true.1 apart range hr) other ho
  simp only [CharRange.misses, CharRange.contains, Bool.or_eq_true, Bool.and_eq_true,
    decide_eq_true_eq] at misses inside inside'
  omega

/-- The characters from the first of a run to its last. -/
def CaseRun.range (run : CaseRun) : CharRange := ⟨run.first, run.last⟩

/-- Blanks are no letters: no table that lower-casing reads has one. -/
theorem not_inRanges_of_isBlank {b : Char} (h : isBlank b = true) :
    inRanges (casedRanges ++ (ignorableRanges ++ (CaseRun.dottedI :: caseRuns).map CaseRun.range)) b
      = false :=
  not_inRanges_of_misses _ (by decide +kernel) h

theorem inRanges_append (ranges others : List CharRange) (c : Char) :
    inRanges (ranges ++ others) c = (inRanges ranges c || inRanges others c) :=
  List.any_append

theorem isCased_of_isBlank {b : Char} (h : isBlank b = true) : isCased b = false := by
  have apart := not_inRanges_of_isBlank h
  rw [inRanges_append, Bool.or_eq_false_iff] at apart
  exact apart.1

theorem isCaseIgnorable_of_isBlank {b : Char} (h : isBlank b = true) :
    isCaseIgnorable b = false := by
  have apart := not_inRanges_of_isBlank h
  rw [inRanges_append, inRanges_append, Bool.or_eq_false_iff, Bool.or_eq_false_iff] at apart
  exact apart.2.1

theorem isSettled_of_isBlank {b : Char} (h : isBlank b = true) : IsSettled b := by
  have apart := not_inRanges_of_isBlank h
  rw [inRanges_append, inRanges_append, Bool.or_eq_false_iff, Bool.or_eq_false_iff] at apart
  intro run hr
  have outside := List.any_eq_false.1 apart.2.2 _ (List.mem_map_of_mem hr)
  rw [Bool.eq_false_iff, Ne, CaseRun.covers_iff]
  exact fun covered => outside (by simp [CaseRun.range, CharRange.contains, covered.1, covered.2.1])

/-- A blank ends what can be looked at for the case of a neighbour. -/
theorem startsCased_append_blank {b : Char} (hb : isBlank b = true) (before after : List Char) :
    startsCased (before ++ b :: after) = startsCased before := by
  induction before with
  | nil => simp [startsCased, isCaseIgnorable_of_isBlank hb, isCased_of_isBlank hb]
  | cons c rest ih => simp [startsCased, ih]

/-- What is before a blank and what is after it are lower-cased on their own. -/
theorem lowerFrom_append_blank {b : Char} (hb : isBlank b = true) (afterCased : Bool)
    (before after : List Char) :
    lowerFrom afterCased (before ++ b :: after)
      = lowerFrom afterCased before ++ b :: lowerFrom false after := by
  induction before generalizing afterCased with
  | nil =>
    have settled := isSettled_of_isBlank hb
    simp [lowerFrom, settled.ne_sigma, settled.lowerChar_eq, isCaseIgnorable_of_isBlank hb,
      isCased_of_isBlank hb]
  | cons c rest ih =>
    simp only [List.cons_append, lowerFrom, ih, startsCased_append_blank hb, List.append_assoc]

theorem lower_append_space (a b : String) : lower (a ++ " " ++ b) = lower a ++ " " ++ lower b := by
  have same : (a ++ " " ++ b).toList = a.toList ++ ' ' :: b.toList := by simp
  rw [lower, same, lowerFrom_append_blank isBlank_space]
  simp [lower, String.ofList_append, String.append_assoc]

end HomeAutomation.Text
