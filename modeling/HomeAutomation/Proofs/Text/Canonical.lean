/-
  HomeAutomation.Proofs.Text.Canonical

  The normal form is canonical.  Lower-casing neither looks past a blank nor makes
  one of anything else, so that every word is lower-cased on its own
  (`normalWords_eq`), and a text is known by its words: what stands between them
  and at the ends does not matter.
-/

import HomeAutomation.Proofs.Text.Normal

namespace HomeAutomation.Text

-- ============================================================================
-- Words in lower case
-- ============================================================================

/-- The characters from the least that a run gives to the greatest. -/
def CaseRun.image (run : CaseRun) : CharRange := ⟨run.low, run.high⟩

/-- No run gives a blank.  That is checked range against range. -/
theorem CaseRun.isBlank_of_covers {run : CaseRun} (h : run ∈ caseRuns) {n : Nat}
    (covered : run.covers n = true) : isBlank (Char.ofNat (n + run.shift).toNat) = false := by
  have apart : ((caseRuns.map image).all fun range => blankRanges.all range.misses) = true := by
    decide +kernel
  apply not_inRanges_of_misses blankRanges apart
  apply List.any_eq_true.2
  refine ⟨run.image, List.mem_map_of_mem h, ?_⟩
  obtain ⟨first, last, -⟩ := covers_iff.1 covered
  simp only [CharRange.contains, image, low, high, toNat_of_covers h covered, Bool.and_eq_true,
    decide_eq_true_eq]
  omega

/-- Only blanks become blanks. -/
theorem isBlank_of_mem_lowerChar {c d : Char} (unblank : isBlank c = false)
    (h : d ∈ lowerChar c) : isBlank d = false := by
  rw [lowerChar_eq] at h
  split at h
  · rcases List.mem_cons.1 h with rfl | h
    · decide
    · obtain rfl := List.mem_singleton.1 h
      decide
  · cases found : caseRuns.find? (·.covers c.toNat) with
    | some run =>
      rw [found] at h
      obtain rfl := List.mem_singleton.1 h
      have covered := List.find?_some found
      exact CaseRun.isBlank_of_covers (List.mem_of_find?_eq_some found) covered
    | none =>
      rw [found] at h
      obtain rfl := List.mem_singleton.1 h
      exact unblank

theorem lowerChar_ne_nil (c : Char) : lowerChar c ≠ [] := by
  rw [lowerChar_eq]
  split
  · simp
  · split <;> simp

/-- What the first character of a text becomes, in front of the rest. -/
theorem exists_lowerFrom_eq (afterCased : Bool) (c : Char) (rest : List Char) :
    ∃ lowered later, lowerFrom afterCased (c :: rest) = lowered ++ lowerFrom later rest ∧
      lowered ≠ [] ∧ (isBlank c = false → ∀ d ∈ lowered, isBlank d = false) := by
  refine ⟨if c = 'Σ' then if afterCased && !startsCased rest then ['ς'] else ['σ'] else lowerChar c,
    if isCaseIgnorable c then afterCased else isCased c, rfl, ?_⟩
  split
  · constructor
    · split <;> simp
    · intro _ d hd
      split at hd <;> obtain rfl := List.mem_singleton.1 hd <;> decide
  · exact ⟨lowerChar_ne_nil c, fun unblank d => isBlank_of_mem_lowerChar unblank⟩

/-- A word in lower case is a word. -/
theorem IsWord.lowerFrom {word : List Char} (h : IsWord word) (afterCased : Bool) :
    IsWord (lowerFrom afterCased word) := by
  obtain ⟨filled, unblank⟩ := h
  induction word generalizing afterCased with
  | nil => exact absurd rfl filled
  | cons c rest ih =>
    obtain ⟨hc, hrest⟩ := List.forall_mem_cons.1 unblank
    obtain ⟨lowered, later, split, some_char, clear⟩ := exists_lowerFrom_eq afterCased c rest
    rw [split]
    refine ⟨by simp [some_char], fun d hd => ?_⟩
    rcases List.mem_append.1 hd with hd | hd
    · exact clear hc d hd
    · cases rest with
      | nil => cases hd
      | cons => exact (ih later (List.cons_ne_nil _ _) hrest).unblank d hd

/-- The words of a text in lower case are its words, each in lower case.  Cut at a blank, a text
    falls into two that are shorter. -/
theorem splitWords_lowerFrom (cs : List Char) :
    splitWords (lowerFrom false cs) = (splitWords cs).map (lowerFrom false) := by
  by_cases broken : ∃ b ∈ cs, isBlank b = true
  · obtain ⟨b, mem, blank⟩ := broken
    obtain ⟨before, after, cut⟩ := List.append_of_mem mem
    rw [cut, lowerFrom_append_blank blank, splitWords_append_blank blank,
      splitWords_append_blank blank, List.map_append, splitWords_lowerFrom before,
      splitWords_lowerFrom after]
  · cases cs with
    | nil => rfl
    | cons c rest =>
      have word : IsWord (c :: rest) :=
        ⟨List.cons_ne_nil _ _, fun d hd => Bool.eq_false_iff.2 fun blank => broken ⟨d, hd, blank⟩⟩
      rw [splitWords_of_isWord word, splitWords_of_isWord (word.lowerFrom false)]
      rfl
termination_by cs.length
decreasing_by
  all_goals
    rw [cut, List.length_append, List.length_cons]
    omega

theorem normalWords_eq (text : String) : normalWords text = (words text).map lower := by
  have lowered : (lower text).toList = lowerFrom false text.toList := String.toList_ofList
  rw [normalWords, words, lowered, splitWords_lowerFrom, words, List.map_map, List.map_map]
  refine List.map_congr_left fun word _ => ?_
  rw [Function.comp_apply, Function.comp_apply, lower, String.toList_ofList]

-- ============================================================================
-- The canonical form
-- ============================================================================

theorem unwords_eq_intercalate (ws : List String) : unwords ws = " ".intercalate ws := by
  apply String.toList_injective
  rw [toList_unwords]
  induction ws with
  | nil => rfl
  | cons word rest ih =>
    cases rest with
    | nil => simp [joinWords]
    | cons next more =>
      rw [String.intercalate_cons_cons, String.toList_append, String.toList_append, ← ih]
      simp [joinWords]

/-- A gap after a text adds no words. -/
theorem normalWords_append_gap_end {gap : String} (blank : IsGap gap) (text : String) :
    normalWords (text ++ gap) = normalWords text := by
  by_cases empty : gap = ""
  · rw [empty, String.append_empty]
  · have ended := normalWords_append_gap blank empty text ""
    rw [String.append_empty] at ended
    rw [ended, show normalWords "" = [] from rfl, List.append_nil]

/-- The normal form is canonical.  It consists of the words of the text, each of them in lower
    case, with one space between two words; it is its own normal form; which blanks stand between
    two words, how many, and whether there are any at the ends, makes no difference; and texts with
    a space between them have the words of their normal forms one after the other. -/
theorem normalize_canonical :
    (∀ text, (∀ w ∈ (words text).map lower, IsWord w.toList) ∧
      normalize text = " ".intercalate ((words text).map lower)) ∧
    (∀ text, normalize (normalize text) = normalize text) ∧
    (∀ before gap gap' after, IsGap gap → gap ≠ "" → IsGap gap' → gap' ≠ "" →
      normalize (before ++ gap ++ after) = normalize (before ++ gap' ++ after)) ∧
    (∀ gap text gap', IsGap gap → IsGap gap' →
      normalize (gap ++ text ++ gap') = normalize text) ∧
    ∀ a b, normalize (a ++ " " ++ b)
      = " ".intercalate (words (normalize a) ++ words (normalize b)) := by
  refine ⟨fun text => ?_, normalize_normalize, ?_, ?_, fun a b => ?_⟩
  · rw [← normalWords_eq]
    exact ⟨fun w hw => (isNormal_of_mem_normalWords hw).isWord, unwords_eq_intercalate _⟩
  · intro before gap gap' after blank filled blank' filled'
    rw [normalize, normalize, normalWords_append_gap blank filled,
      normalWords_append_gap blank' filled']
  · intro gap text gap' blank blank'
    rw [normalize, normalWords_append_gap_end blank', normalWords_gap_append blank]
    rfl
  · rw [normalize, normalWords_append_space, words_normalize, words_normalize,
      unwords_eq_intercalate]

/-- A capital sigma at the end of a word is a final one, whatever blank follows, but one that makes
    a word by itself is not. -/
theorem normalize_canonical_sigma :
    normalize ("\t" ++ "ΟΔΟΣ Σ" ++ "\u2028") = "οδος σ" ∧
      normalize ("ΟΔΟΣ" ++ "\u3000\u001c" ++ "Σ") = normalize ("ΟΔΟΣ" ++ "\n" ++ "Σ") ∧
      normalize ("ΟΔΟΣ" ++ " " ++ "Σ") = " ".intercalate ["οδος", "σ"] := by
  obtain ⟨-, -, respaced, trimmed, joined⟩ := normalize_canonical
  refine ⟨?_, ?_, ?_⟩
  · rw [trimmed "\t" "ΟΔΟΣ Σ" "\u2028" (by decide +kernel) (by decide +kernel)]
    decide +kernel
  · exact respaced "ΟΔΟΣ" "\u3000\u001c" "\n" "Σ" (by decide +kernel) (by decide)
      (by decide +kernel) (by decide)
  · rw [joined]
    decide +kernel

end HomeAutomation.Text
