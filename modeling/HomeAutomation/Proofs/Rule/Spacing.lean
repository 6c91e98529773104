/-
  HomeAutomation.Proofs.Rule.Spacing

  Comparison signs in condition texts.  Signs are spaced wherever they stand,
  before or after lower-casing all the same, so that each word of a text falls
  apart on its own, into the words around the signs and the signs; a word is left
  as it is if and only if it is a sign or holds none.
-/

import Mathlib.Data.List.Infix
import HomeAutomation.Proofs.Text.Normal
import HomeAutomation.Rule.Parser

namespace HomeAutomation.Condition

open Text

/-- The words into which a word falls apart when its comparison signs are spaced. -/
def signWords (word : String) : List String := words (String.ofList (spaceSigns word.toList))

-- ============================================================================
-- Characters
-- ============================================================================

/-- The characters of comparison signs. -/
def signChars : List Char := ['<', '>', '=']

theorem spaceSigns_cons {c : Char} (h : c ∉ signChars) (rest : List Char) :
    spaceSigns (c :: rest) = c :: spaceSigns rest := by
  simp only [signChars, List.mem_cons, List.not_mem_nil, or_false, not_or] at h
  exact spaceSigns.eq_6 _ _ (fun _ same => absurd same h.2.1) (fun _ same => absurd same h.1)
    (fun _ same => absurd same h.2.2) h.2.1 h.1

theorem spaceSigns_append_of_clear {clear : List Char} (h : ∀ c ∈ clear, c ∉ signChars)
    (rest : List Char) : spaceSigns (clear ++ rest) = clear ++ spaceSigns rest := by
  induction clear with
  | nil => rfl
  | cons c more ih =>
    rw [List.cons_append, spaceSigns_cons (h c List.mem_cons_self),
      ih fun x hx => h x (List.mem_cons_of_mem _ hx)]
    rfl

/-- A sign ends before a character that belongs to none. -/
theorem spaceSigns_append_cons {b : Char} (hb : b ∉ signChars) (before after : List Char) :
    spaceSigns (before ++ b :: after) = spaceSigns before ++ b :: spaceSigns after := by
  have apart {rest : List Char} (h : ∀ more, rest = '=' :: more → False) (more : List Char) :
      rest ++ b :: after = '=' :: more → False := by
    cases rest with
    | nil =>
      intro same
      obtain ⟨rfl, -⟩ := List.cons.inj same
      exact hb (by simp [signChars])
    | cons c rest => exact fun same => h rest (by simp_all)
  fun_induction spaceSigns before with
  | case1 rest ih | case2 rest ih | case3 rest ih => simp only [List.cons_append, spaceSigns, ih]
  | case4 rest single ih =>
    rw [List.cons_append, spaceSigns.eq_4 _ (apart single), ih]
    rfl
  | case5 rest single ih =>
    rw [List.cons_append, spaceSigns.eq_5 _ (apart single), ih]
    rfl
  | case6 c rest _ _ double greater less ih =>
    rw [List.cons_append, spaceSigns.eq_6 _ _ (fun _ h => absurd h greater)
      (fun _ h => absurd h less) (fun more h => apart (fun more => double more h) more) greater
      less, ih]
    rfl
  | case7 => exact spaceSigns_cons hb after

theorem not_mem_signChars_of_isBlank {b : Char} (h : isBlank b = true) : b ∉ signChars := by
  intro sign
  have unblank : ∀ c ∈ signChars, isBlank c = false := forall_mem_of_all (by decide)
  rw [unblank b sign] at h
  cases h

/-- Spacing adds blanks only. -/
theorem filter_spaceSigns (cs : List Char) :
    (spaceSigns cs).filter (!isBlank ·) = cs.filter (!isBlank ·) := by
  fun_induction spaceSigns cs with
  | case1 rest ih | case2 rest ih | case3 rest ih | case4 rest _ ih | case5 rest _ ih
  | case6 c rest _ _ _ _ _ ih => simp [List.filter_cons, isBlank_space, ih]
  | case7 => rfl

theorem mem_spaceSigns {cs : List Char} {c : Char} (h : c ∈ spaceSigns cs) : c = ' ' ∨ c ∈ cs := by
  fun_induction spaceSigns cs with
  | case1 rest ih | case2 rest ih | case3 rest ih | case4 rest _ ih | case5 rest _ ih
  | case6 _ rest _ _ _ _ _ ih => grind
  | case7 => cases h

-- ============================================================================
-- Lower case
-- ============================================================================

/-- Spaces and signs are left as they are, carry no case and are not looked through. -/
theorem uncased_of_mem : ∀ c ∈ ' ' :: signChars,
    c ≠ 'Σ' ∧ lowerChar c = [c] ∧ isCaseIgnorable c = false ∧ isCased c = false :=
  forall_mem_of_all (by decide +kernel)

theorem lowerFrom_cons_of_mem {c : Char} (h : c ∈ ' ' :: signChars) (afterCased : Bool)
    (rest : List Char) : lowerFrom afterCased (c :: rest) = c :: lowerFrom false rest := by
  obtain ⟨plain, same, seen, uncased⟩ := uncased_of_mem c h
  rw [lowerFrom, if_neg plain, same, seen, uncased]
  rfl

theorem startsCased_cons_of_mem {c : Char} (h : c ∈ ' ' :: signChars) (rest : List Char) :
    startsCased (c :: rest) = false := by
  obtain ⟨-, -, seen, uncased⟩ := uncased_of_mem c h
  rw [startsCased, seen, uncased]
  rfl

theorem startsCased_spaceSigns (cs : List Char) :
    startsCased (spaceSigns cs) = startsCased cs := by
  fun_induction spaceSigns cs with
  | case1 rest ih | case2 rest ih | case3 rest ih | case4 rest _ ih | case5 rest _ ih =>
    rw [startsCased_cons_of_mem (by simp), startsCased_cons_of_mem (by simp [signChars])]
  | case6 c rest _ _ _ _ _ ih => rw [startsCased, startsCased, ih]
  | case7 => rfl

/-- No character but a sign becomes one. -/
theorem not_mem_signChars_of_mem_lowerChar {c d : Char} (hc : c ∉ signChars)
    (hd : d ∈ lowerChar c) : d ∉ signChars := by
  have high : (caseRuns.all fun run => 0x3E < run.low) = true := by decide
  rw [lowerChar_eq] at hd
  split at hd
  · have apart : ∀ d ∈ ['i', '\u0307'], d ∉ signChars := forall_mem_of_all (by decide)
    exact apart d hd
  · cases found : caseRuns.find? (·.covers c.toNat) with
    | none =>
      rw [found] at hd
      exact List.mem_singleton.1 hd ▸ hc
    | some run =>
      rw [found] at hd
      obtain rfl := List.mem_singleton.1 hd
      have covered := List.find?_some found
      have beyond := of_decide_eq_true
        (List.all_eq_true.1 high run (List.mem_of_find?_eq_some found))
      have first := (CaseRun.covers_iff.1 covered).1
      have low : run.low = (run.first + run.shift).toNat := rfl
      have image : 0x3E < (c.toNat + run.shift).toNat := by omega
      intro sign
      have small : ∀ d ∈ signChars, 0 < d.toNat ∧ d.toNat ≤ 0x3E := forall_mem_of_all (by decide)
      obtain ⟨positive, below⟩ := small _ sign
      rw [Char.ofNat] at positive below
      by_cases valid : (c.toNat + run.shift).toNat.isValidChar
      · rw [dif_pos valid] at below
        exact absurd below image.not_ge
      · rw [dif_neg valid] at positive
        exact absurd positive (by decide)

/-- What a character that belongs to no sign becomes in lower case belongs to none. -/
theorem exists_lowerFrom_cons {c : Char} (hc : c ∉ signChars) (afterCased : Bool)
    (rest : List Char) : ∃ lowered next, lowered ≠ [] ∧ (∀ d ∈ lowered, d ∉ signChars) ∧
      ∀ more, startsCased more = startsCased rest →
        lowerFrom afterCased (c :: more) = lowered ++ lowerFrom next more := by
  by_cases sigma : c = 'Σ'
  · refine ⟨if afterCased && !startsCased rest then ['ς'] else ['σ'],
      if isCaseIgnorable c then afterCased else isCased c, ?_, ?_, fun more same => ?_⟩
    · split <;> simp
    · split <;> exact forall_mem_of_all (by decide)
    · rw [lowerFrom, if_pos sigma, same]
  · refine ⟨lowerChar c, if isCaseIgnorable c then afterCased else isCased c, ?_,
      fun d hd => not_mem_signChars_of_mem_lowerChar hc hd, fun more _ => ?_⟩
    · rw [lowerChar_eq]
      split
      · simp
      · split <;> simp
    · rw [lowerFrom, if_neg sigma]

/-- A text starts with an equals sign in lower case only if it does so as it is. -/
theorem exists_of_lowerFrom_eq_cons {afterCased : Bool} {cs more : List Char}
    (h : lowerFrom afterCased cs = '=' :: more) : ∃ rest, cs = '=' :: rest := by
  cases cs with
  | nil => cases h
  | cons c rest =>
    by_cases hc : c ∈ signChars
    · rw [lowerFrom_cons_of_mem (List.mem_cons_of_mem _ hc)] at h
      exact ⟨rest, by rw [(List.cons.inj h).1]⟩
    · obtain ⟨lowered, next, filled, clear, lower⟩ := exists_lowerFrom_cons hc afterCased rest
      rw [lower rest rfl] at h
      obtain ⟨first, others, rfl⟩ := List.exists_cons_of_ne_nil filled
      obtain ⟨rfl, -⟩ := List.cons.inj h
      exact absurd (by simp [signChars]) (clear '=' List.mem_cons_self)

/-- Signs are spaced before or after lower-casing, all the same. -/
theorem lowerFrom_spaceSigns (afterCased : Bool) (cs : List Char) :
    lowerFrom afterCased (spaceSigns cs) = spaceSigns (lowerFrom afterCased cs) := by
  have space (afterCased : Bool) (rest : List Char) :
      lowerFrom afterCased (' ' :: rest) = ' ' :: lowerFrom false rest :=
    lowerFrom_cons_of_mem List.mem_cons_self afterCased rest
  have sign {c : Char} (hc : c ∈ signChars) (afterCased : Bool) (rest : List Char) :
      lowerFrom afterCased (c :: rest) = c :: lowerFrom false rest :=
    lowerFrom_cons_of_mem (List.mem_cons_of_mem _ hc) afterCased rest
  have single {rest : List Char} (h : ∀ more, rest = '=' :: more → False) (more : List Char) :
      lowerFrom false rest = '=' :: more → False := fun same =>
    (exists_of_lowerFrom_eq_cons same).elim h
  have less : '<' ∈ signChars := by simp [signChars]
  have greater : '>' ∈ signChars := by simp [signChars]
  have equals : '=' ∈ signChars := by simp [signChars]
  fun_induction spaceSigns cs generalizing afterCased with
  | case1 rest ih =>
    rw [space, sign greater, sign equals, space, sign greater, sign equals, spaceSigns, ih]
  | case2 rest ih =>
    rw [space, sign less, sign equals, space, sign less, sign equals, spaceSigns, ih]
  | case3 rest ih =>
    rw [space, sign equals, sign equals, space, sign equals, sign equals, spaceSigns, ih]
  | case4 rest alone ih =>
    rw [space, sign greater, space, sign greater, spaceSigns.eq_4 _ (single alone), ih]
  | case5 rest alone ih =>
    rw [space, sign less, space, sign less, spaceSigns.eq_5 _ (single alone), ih]
  | case6 c rest _ _ double notGreater notLess ih =>
    by_cases hc : c ∈ signChars
    · -- an equals sign that stands alone
      simp only [signChars, List.mem_cons, List.not_mem_nil, or_false] at hc
      obtain rfl := (hc.resolve_left notLess).resolve_left notGreater
      rw [sign equals, sign equals, spaceSigns.eq_6 _ _ (fun _ h => absurd h notGreater)
        (fun _ h => absurd h notLess) (fun more _ => single (double · rfl) more) notGreater notLess,
        ih]
    · obtain ⟨lowered, next, -, clear, lower⟩ := exists_lowerFrom_cons hc afterCased rest
      rw [lower _ (startsCased_spaceSigns rest), lower rest rfl, spaceSigns_append_of_clear clear, ih]
  | case7 => rfl

-- ============================================================================
-- Words
-- ============================================================================

theorem isNormal_of_mem_signWords {word part : String} (h : IsNormal word)
    (hp : part ∈ signWords word) : IsNormal part := by
  refine ⟨isWord_of_mem_words hp, fun c hc => ?_⟩
  obtain ⟨w, hw, rfl⟩ := List.mem_map.1 hp
  have spaced := mem_of_mem_splitWords hw (by simpa using hc)
  rcases mem_spaceSigns (by simpa using spaced) with rfl | hc
  · exact isSettled_of_isBlank isBlank_space
  · exact h.settled c hc

/-- The words of a text in normal form, its signs spaced: it need not be lower-cased again. -/
theorem sourceWords_eq_words {ws : List String} (h : ∀ w ∈ ws, IsNormal w) :
    sourceWords (unwords ws) = words (String.ofList (spaceSigns (unwords ws).toList)) := by
  have settled : ∀ c ∈ (String.ofList (spaceSigns (unwords ws).toList)).toList, IsSettled c := by
    intro c hc
    rcases mem_spaceSigns (by simpa using hc) with rfl | hc
    · exact isSettled_of_isBlank isBlank_space
    · exact isSettled_of_mem_unwords h hc
  rw [sourceWords, normalWords, lower_eq_self settled]

/-- Every word of a text falls apart on its own. -/
theorem splitWords_spaceSigns (cs : List Char) :
    splitWords (spaceSigns cs) = (splitWords cs).flatMap (splitWords ∘ spaceSigns) := by
  induction hn : cs.length using Nat.strong_induction_on generalizing cs with
  | _ n ih =>
    cases blank : cs.find? isBlank with
    | none =>
      -- the text is one word, if any
      by_cases filled : cs = []
      · subst filled
        rfl
      · have isWord : IsWord cs :=
          ⟨filled, fun c hc => Bool.eq_false_iff.2 (List.find?_eq_none.1 blank c hc)⟩
        rw [splitWords_of_isWord isWord]
        simp
    | some b =>
      obtain ⟨before, after, rfl⟩ := List.append_of_mem (List.mem_of_find?_eq_some blank)
      have hb := List.find?_some blank
      rw [List.length_append, List.length_cons] at hn
      rw [spaceSigns_append_cons (not_mem_signChars_of_isBlank hb), splitWords_append_blank hb,
        splitWords_append_blank hb, List.flatMap_append, ih _ (by omega) before rfl,
        ih _ (by omega) after rfl]

theorem sourceWords_eq (text : String) : sourceWords text = (normalWords text).flatMap signWords := by
  have parts : sourceWords text
      = (splitWords (lowerFrom false (spaceSigns text.toList))).map String.ofList := by
    simp [sourceWords, normalWords, words, lower]
  have whole : normalWords text = (splitWords (lowerFrom false text.toList)).map String.ofList := by
    simp [normalWords, words, lower]
  rw [parts, whole, lowerFrom_spaceSigns, splitWords_spaceSigns, List.map_flatMap, List.flatMap_map]
  simp [signWords, words]

theorem sourceWords_unwords {ws : List String} (h : ∀ w ∈ ws, IsNormal w) :
    sourceWords (unwords ws) = ws.flatMap signWords := by
  rw [sourceWords_eq, normalWords_unwords h]

-- ============================================================================
-- Words that are left as they are
-- ============================================================================

/-- Whether a text holds a comparison sign; the longer signs but one hold a shorter. -/
def HasSign (cs : List Char) : Prop := '<' ∈ cs ∨ '>' ∈ cs ∨ ['=', '='] <:+: cs

/-- A word without comparison sign in it, unless it is one. -/
def IsWhole (word : String) : Prop :=
  (Comparison.ofSymbol? word).isSome = true ∨ ¬ HasSign word.toList

instance (cs : List Char) : Decidable (HasSign cs) := by unfold HasSign; infer_instance

instance (word : String) : Decidable (IsWhole word) := by unfold IsWhole; infer_instance

theorem hasSign_cons {c : Char} {cs : List Char} :
    HasSign (c :: cs) ↔ c = '<' ∨ c = '>' ∨ (c = '=' ∧ ∃ rest, cs = '=' :: rest) ∨ HasSign cs := by
  have double : ['=', '='] <+: c :: cs ↔ c = '=' ∧ ∃ rest, cs = '=' :: rest := by
    rw [List.cons_prefix_cons]
    refine and_congr eq_comm ⟨?_, ?_⟩
    · rintro ⟨rest, rfl⟩
      exact ⟨rest, rfl⟩
    · rintro ⟨rest, rfl⟩
      exact ⟨rest, rfl⟩
  simp only [HasSign, List.mem_cons, List.infix_cons_iff, double]
  grind

theorem spaceSigns_of_not_hasSign {cs : List Char} (h : ¬ HasSign cs) : spaceSigns cs = cs := by
  fun_induction spaceSigns cs with
  | case1 rest ih | case2 rest ih | case3 rest ih | case4 rest _ ih | case5 rest _ ih =>
    exact absurd (hasSign_cons.2 (by simp)) h
  | case6 c rest _ _ _ _ _ ih => rw [ih fun hs => h (hasSign_cons.2 (.inr (.inr (.inr hs))))]
  | case7 => rfl

/-- A sign with something behind it does not stay one word. -/
theorem eq_nil_of_splitWords_sign (sign : List Char) (isWord : IsWord sign) {spaced rest : List Char}
    (h : splitWords (' ' :: (sign ++ ' ' :: spaced)) = [sign ++ rest]) : rest = [] := by
  rw [splitWords_cons_blank isBlank_space, splitWords_append_blank isBlank_space,
    splitWords_of_isWord isWord] at h
  exact List.self_eq_append_right.1 (List.cons.inj h).1

/-- A character that starts no sign stays with the word behind it. -/
theorem splitWords_of_splitWords_cons {c : Char} (hc : isBlank c = false) {spaced rest : List Char}
    (filled : rest ≠ []) (h : splitWords (c :: spaced) = [c :: rest]) :
    splitWords spaced = [rest] ∧ ∀ more, spaced ≠ ' ' :: more := by
  rw [splitWords_cons hc] at h
  cases spaced with
  | nil => simp_all
  | cons d more =>
    cases hd : isBlank d with
    | true => simp_all
    | false =>
      obtain ⟨word, others, hw⟩ := exists_splitWords_cons hd more
      simp only [hd, hw, Bool.false_eq_true, if_false] at h
      refine ⟨by simp_all, fun more same => ?_⟩
      rw [(List.cons.inj same).1, isBlank_space] at hd
      cases hd

/-- The comparison signs. -/
def signs : List (List Char) := [['>', '='], ['<', '='], ['=', '='], ['>'], ['<']]

theorem isSome_ofSymbol?_iff {word : String} :
    (Comparison.ofSymbol? word).isSome = true ↔ word.toList ∈ signs := by
  constructor
  · unfold Comparison.ofSymbol?
    split <;> simp [signs]
  · intro h
    simp only [signs, List.mem_cons, List.not_mem_nil, or_false] at h
    rw [← String.ofList_toList (s := word)]
    rcases h with h | h | h | h | h <;> rw [h] <;> rfl

/-- A word stays one word only if it is a sign or holds none. -/
theorem isSign_or_of_splitWords_spaceSigns {cs : List Char} (unblank : ∀ c ∈ cs, isBlank c = false)
    (h : splitWords (spaceSigns cs) = [cs]) : cs ∈ signs ∨ ¬ HasSign cs := by
  fun_induction spaceSigns cs with
  | case1 rest ih =>
    obtain rfl := eq_nil_of_splitWords_sign ['>', '='] (.of_all (by simp) rfl) h
    exact .inl (by decide)
  | case2 rest ih =>
    obtain rfl := eq_nil_of_splitWords_sign ['<', '='] (.of_all (by simp) rfl) h
    exact .inl (by decide)
  | case3 rest ih =>
    obtain rfl := eq_nil_of_splitWords_sign ['=', '='] (.of_all (by simp) rfl) h
    exact .inl (by decide)
  | case4 rest _ ih =>
    obtain rfl := eq_nil_of_splitWords_sign ['>'] (.of_all (by simp) rfl) h
    exact .inl (by decide)
  | case5 rest _ ih =>
    obtain rfl := eq_nil_of_splitWords_sign ['<'] (.of_all (by simp) rfl) h
    exact .inl (by decide)
  | case6 c rest _ _ double greater less ih =>
    refine .inr fun has => ?_
    have hrest : HasSign rest := by
      rcases hasSign_cons.1 has with rfl | rfl | ⟨rfl, more, rfl⟩ | hrest
      · exact (less rfl).elim
      · exact (greater rfl).elim
      · exact (double more rfl rfl).elim
      · exact hrest
    have filled : rest ≠ [] := by
      rintro rfl
      simp [HasSign] at hrest
    obtain ⟨single, unspaced⟩ :=
      splitWords_of_splitWords_cons (unblank c List.mem_cons_self) filled h
    rcases ih (fun x hx => unblank x (List.mem_cons_of_mem _ hx)) single with sign | clear
    · -- the sign would have been spaced
      simp only [signs, List.mem_cons, List.not_mem_nil, or_false] at sign
      rcases sign with rfl | rfl | rfl | rfl | rfl <;> exact unspaced _ rfl
    · exact clear hrest
  | case7 => exact .inr (by simp [HasSign])

/-- A word is left as it is if and only if it is whole. -/
theorem signWords_eq_singleton_iff {word : String} (h : IsWord word.toList) :
    signWords word = [word] ↔ IsWhole word := by
  have chars : signWords word = [word] ↔ splitWords (spaceSigns word.toList) = [word.toList] := by
    rw [signWords, words, String.toList_ofList, List.map_eq_singleton_iff]
    constructor
    · rintro ⟨cs, single, rfl⟩
      rw [single, String.toList_ofList]
    · exact fun single => ⟨_, single, String.ofList_toList⟩
  rw [chars, IsWhole, isSome_ofSymbol?_iff]
  constructor
  · exact isSign_or_of_splitWords_spaceSigns h.unblank
  · rintro (sign | clear)
    · simp only [signs, List.mem_cons, List.not_mem_nil, or_false] at sign
      rcases sign with sign | sign | sign | sign | sign <;> rw [sign] <;> decide
    · rw [spaceSigns_of_not_hasSign clear, splitWords_of_isWord h]

/-- The parts of a word have its characters. -/
theorem flatten_signWords {word : String} (h : IsWord word.toList) :
    ((signWords word).map String.toList).flatten = word.toList := by
  have kept : word.toList.filter (!isBlank ·) = word.toList :=
    List.filter_eq_self.2 fun c hc => by simp [h.unblank c hc]
  rw [signWords, words, String.toList_ofList, List.map_map]
  refine Eq.trans (congrArg List.flatten ?_) (((flatten_splitWords _).trans
    (filter_spaceSigns _)).trans kept)
  simp [Function.comp_def]

/-- Words are left as they are together if each is left as it is. -/
theorem flatMap_signWords_eq_self_iff {ws : List String} (h : ∀ w ∈ ws, IsWord w.toList) :
    ws.flatMap signWords = ws ↔ ∀ w ∈ ws, IsWhole w := by
  induction ws with
  | nil => simp
  | cons word rest ih =>
    have isWord := h word List.mem_cons_self
    rw [List.forall_mem_cons, ← signWords_eq_singleton_iff isWord,
      ← ih fun w hw => h w (List.mem_cons_of_mem _ hw), List.flatMap_cons]
    constructor
    · intro same
      have flatten := flatten_signWords isWord
      cases parts : signWords word with
      | nil =>
        rw [parts] at flatten
        exact absurd flatten.symm isWord.filled
      | cons first more =>
        rw [parts, List.cons_append] at same
        obtain ⟨rfl, others⟩ := List.cons.inj same
        -- the other parts have no characters left
        have none : more = [] := by
          refine List.eq_nil_iff_forall_not_mem.2 fun part hp => ?_
          have isPart : IsWord part.toList :=
            isWord_of_mem_words (parts ▸ List.mem_cons_of_mem _ hp)
          rw [parts, List.map_cons, List.flatten_cons, List.append_right_eq_self] at flatten
          exact isPart.filled (List.flatten_eq_nil_iff.1 flatten _ (List.mem_map_of_mem hp))
        rw [none] at others ⊢
        exact ⟨rfl, others⟩
    · rintro ⟨single, same⟩
      rw [single, same]
      rfl

-- ============================================================================
-- Spacing once is enough
-- ============================================================================

/-- Spaced text starts with a character that is no blank only if the text starts with it. -/
theorem exists_of_spaceSigns_eq_cons {cs more : List Char} {d : Char} (hd : isBlank d = false)
    (h : spaceSigns cs = d :: more) : d ≠ '<' ∧ d ≠ '>' ∧ ∃ rest, cs = d :: rest := by
  have spaced {rest : List Char} (same : ' ' :: rest = d :: more) : False := by
    rw [← (List.cons.inj same).1, isBlank_space] at hd
    cases hd
  fun_cases spaceSigns cs with
  | case1 rest | case2 rest | case3 rest => exact (spaced (by simpa [spaceSigns] using h)).elim
  | case4 rest single => exact (spaced ((spaceSigns.eq_4 rest single).symm.trans h)).elim
  | case5 rest single => exact (spaced ((spaceSigns.eq_5 rest single).symm.trans h)).elim
  | case6 c rest _ _ double greater less =>
    rw [spaceSigns.eq_6 _ _ (fun _ h => absurd h greater) (fun _ h => absurd h less) double greater
      less] at h
    obtain ⟨rfl, -⟩ := List.cons.inj h
    exact ⟨less, greater, rest, rfl⟩
  | case7 => cases h

/-- The words of spaced text are signs or hold none, and the one in front holds none if nothing
    parts it from what stands before. -/
theorem isSign_or_of_mem_splitWords_spaceSigns (cs : List Char) :
    (∀ word ∈ splitWords (spaceSigns cs), word ∈ signs ∨ ¬ HasSign word) ∧
    (∀ d more, spaceSigns cs = d :: more → isBlank d = false →
      ∀ word rest, splitWords (spaceSigns cs) = word :: rest → ¬ HasSign word) := by
  have sign (sign : List Char) {spaced : List Char} (known : sign ∈ signs) (isWord : IsWord sign)
      (tail : ∀ word ∈ splitWords spaced, word ∈ signs ∨ ¬ HasSign word) :
      (∀ word ∈ splitWords (' ' :: (sign ++ ' ' :: spaced)), word ∈ signs ∨ ¬ HasSign word) ∧
      (∀ d more, ' ' :: (sign ++ ' ' :: spaced) = d :: more → isBlank d = false →
        ∀ word rest, splitWords (' ' :: (sign ++ ' ' :: spaced)) = word :: rest →
          ¬ HasSign word) := by
    constructor
    · rw [splitWords_cons_blank isBlank_space, splitWords_append_blank isBlank_space,
        splitWords_of_isWord isWord]
      exact List.forall_mem_cons.2 ⟨.inl known, tail⟩
    · intro d more same unblank
      rw [← (List.cons.inj same).1, isBlank_space] at unblank
      cases unblank
  fun_induction spaceSigns cs with
  | case1 rest ih => exact sign ['>', '='] (by simp [signs]) (.of_all (by simp) rfl) ih.1
  | case2 rest ih => exact sign ['<', '='] (by simp [signs]) (.of_all (by simp) rfl) ih.1
  | case3 rest ih => exact sign ['=', '='] (by simp [signs]) (.of_all (by simp) rfl) ih.1
  | case4 rest _ ih => exact sign ['>'] (by simp [signs]) (.of_all (by simp) rfl) ih.1
  | case5 rest _ ih => exact sign ['<'] (by simp [signs]) (.of_all (by simp) rfl) ih.1
  | case6 c rest _ _ double greater less ih =>
    cases hc : isBlank c with
    | true =>
      rw [splitWords_cons_blank hc]
      refine ⟨ih.1, fun d more same unblank => ?_⟩
      rw [← (List.cons.inj same).1, hc] at unblank
      cases unblank
    | false =>
      have alone : ¬ HasSign [c] := fun has => by
        rcases hasSign_cons.1 has with same | same | ⟨-, more, same⟩ | has
        · exact less same
        · exact greater same
        · cases same
        · simp [HasSign] at has
      -- what stands before the first word of the rest makes no sign with it
      obtain ⟨word, others, parts, clear, tail⟩ : ∃ word others,
          splitWords (c :: spaceSigns rest) = word :: others ∧ ¬ HasSign word ∧
            ∀ w ∈ others, w ∈ signs ∨ ¬ HasSign w := by
        rw [splitWords_cons hc]
        cases after : spaceSigns rest with
        | nil => exact ⟨[c], [], rfl, alone, by simp⟩
        | cons d more =>
          rw [after] at ih
          cases hd : isBlank d with
          | true => exact ⟨[c], _, by simp [hd], alone, ih.1⟩
          | false =>
            obtain ⟨word, others, parts⟩ := exists_splitWords_cons hd more
            refine ⟨c :: d :: word, others, by simp [hd, parts], fun has => ?_, fun w hw =>
              ih.1 w (parts ▸ List.mem_cons_of_mem _ hw)⟩
            rcases hasSign_cons.1 has with same | same | ⟨equals, next, same⟩ | has
            · exact less same
            · exact greater same
            · obtain ⟨-, -, before, rfl⟩ := exists_of_spaceSigns_eq_cons hd after
              exact double before equals (by rw [(List.cons.inj same).1])
            · exact ih.2 d more rfl hd _ _ parts has
      rw [parts]
      refine ⟨List.forall_mem_cons.2 ⟨.inr clear, tail⟩, fun _ _ _ _ word' rest' same => ?_⟩
      rw [← (List.cons.inj same).1]
      exact clear
  | case7 => exact ⟨by simp [splitWords], by simp⟩

/-- The words into which a word falls apart are whole. -/
theorem isWhole_of_mem_signWords {word part : String} (h : part ∈ signWords word) :
    IsWhole part := by
  obtain ⟨w, hw, rfl⟩ := List.mem_map.1 h
  rw [IsWhole, isSome_ofSymbol?_iff, String.toList_ofList]
  rw [String.toList_ofList] at hw
  exact (isSign_or_of_mem_splitWords_spaceSigns word.toList).1 w hw

theorem isNormal_of_mem_sourceWords {text word : String} (h : word ∈ sourceWords text) :
    IsNormal word := by
  rw [sourceWords_eq] at h
  obtain ⟨whole, hwhole, part⟩ := List.mem_flatMap.1 h
  exact isNormal_of_mem_signWords (isNormal_of_mem_normalWords hwhole) part

/-- The words of a condition text fall apart no further. -/
theorem flatMap_signWords_sourceWords {ws : List String} {text : String}
    (h : ∀ w ∈ ws, w ∈ sourceWords text) : ws.flatMap signWords = ws := by
  refine (flatMap_signWords_eq_self_iff fun w hw =>
    (isNormal_of_mem_sourceWords (h w hw)).isWord).2 fun w hw => ?_
  have mem := h w hw
  rw [sourceWords_eq] at mem
  obtain ⟨whole, -, part⟩ := List.mem_flatMap.1 mem
  exact isWhole_of_mem_signWords part

end HomeAutomation.Condition
