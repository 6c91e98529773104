/-
  HomeAutomation.Proofs.Text.Words

  Words and the blanks between them.  A text falls apart at every blank
  (`splitWords_append_blank`), and all else follows from that: words have
  characters, none of them blank; writing words and reading them again gives
  them back; and the words of a text hold exactly its characters that are not
  blank, in order.
-/

import HomeAutomation.Text.Blank

namespace HomeAutomation.Text

/-- A word: at least one character, and no blank. -/
structure IsWord (word : List Char) : Prop where
  filled : word ≠ []
  unblank : ∀ c ∈ word, isBlank c = false

/-- The characters of a list can be gone through one by one. -/
theorem forall_mem_of_all {p : Char → Prop} [DecidablePred p] {cs : List Char}
    (h : (cs.all fun c => decide (p c)) = true) : ∀ c ∈ cs, p c := fun c hc =>
  of_decide_eq_true (List.all_eq_true.1 h c hc)

theorem IsWord.of_all {word : List Char} (filled : word ≠ [])
    (unblank : (word.all (!isBlank ·)) = true) : IsWord word :=
  ⟨filled, fun c hc => by simpa using List.all_eq_true.1 unblank c hc⟩

theorem isBlank_space : isBlank ' ' = true := rfl

-- ============================================================================
-- Splitting
-- ============================================================================

theorem splitWords_cons_blank {c : Char} (h : isBlank c = true) (cs : List Char) :
    splitWords (c :: cs) = splitWords cs := by
  rw [splitWords.eq_def]
  simp [h]

/-- A character that is not blank begins a word or belongs to the one that follows. -/
theorem splitWords_cons {c : Char} (h : isBlank c = false) (cs : List Char) :
    splitWords (c :: cs) =
      match cs with
      | [] => [[c]]
      | d :: _ =>
        if isBlank d then [c] :: splitWords cs
        else
          match splitWords cs with
          | [] => [[c]]
          | word :: rest => (c :: word) :: rest := by
  unfold splitWords
  rw [if_neg (by simp [h])]
  cases cs with
  | nil => rfl
  | cons d more => rfl

theorem exists_splitWords_cons {c : Char} (h : isBlank c = false) (cs : List Char) :
    ∃ word rest, splitWords (c :: cs) = (c :: word) :: rest := by
  rw [splitWords_cons h]
  split
  · exact ⟨_, _, rfl⟩
  · split
    · exact ⟨_, _, rfl⟩
    · split <;> exact ⟨_, _, rfl⟩

/-- Words split at a blank. -/
theorem splitWords_append_blank {b : Char} (hb : isBlank b = true) (before after : List Char) :
    splitWords (before ++ b :: after) = splitWords before ++ splitWords after := by
  induction before with
  | nil => exact splitWords_cons_blank hb after
  | cons c rest ih =>
    cases hc : isBlank c with
    | true =>
      rw [List.cons_append, splitWords_cons_blank hc, splitWords_cons_blank hc, ih]
    | false =>
      cases rest with
      | nil =>
        rw [List.cons_append, List.nil_append, splitWords_cons hc]
        simp [hb, splitWords_cons_blank hb, splitWords_cons hc]
      | cons d more =>
        rw [List.cons_append, splitWords_cons hc, splitWords_cons hc, ih]
        cases hd : isBlank d with
        | true => simp [hd]
        | false =>
          obtain ⟨word, rest, hw⟩ := exists_splitWords_cons hd more
          simp [hd, hw]

theorem splitWords_of_isWord {word : List Char} (h : IsWord word) : splitWords word = [word] := by
  obtain ⟨filled, unblank⟩ := h
  induction word with
  | nil => exact absurd rfl filled
  | cons c rest ih =>
    rw [splitWords_cons (unblank c List.mem_cons_self)]
    cases rest with
    | nil => rfl
    | cons d more =>
      have tail := ih (List.cons_ne_nil _ _) fun x hx => unblank x (List.mem_cons_of_mem _ hx)
      rw [tail]
      simp [unblank d (by simp)]

theorem isWord_of_mem_splitWords {cs word : List Char} (h : word ∈ splitWords cs) :
    IsWord word := by
  induction cs generalizing word with
  | nil => cases h
  | cons c rest ih =>
    cases hc : isBlank c with
    | true =>
      rw [splitWords_cons_blank hc] at h
      exact ih h
    | false =>
      have single : IsWord [c] := ⟨by simp, by simpa using hc⟩
      rw [splitWords_cons hc] at h
      split at h
      · obtain rfl := List.mem_singleton.1 h
        exact single
      · split at h
        · rcases List.mem_cons.1 h with rfl | h
          · exact single
          · exact ih h
        · split at h
          · obtain rfl := List.mem_singleton.1 h
            exact single
          · rename_i first more split
            rcases List.mem_cons.1 h with rfl | h
            · have tail := ih (split ▸ List.mem_cons_self)
              exact ⟨by simp, List.forall_mem_cons.2 ⟨hc, tail.unblank⟩⟩
            · exact ih (split ▸ List.mem_cons_of_mem _ h)

/-- The words of a text hold its characters that are not blank. -/
theorem flatten_splitWords (cs : List Char) :
    (splitWords cs).flatten = cs.filter (!isBlank ·) := by
  induction cs with
  | nil => rfl
  | cons c rest ih =>
    cases hc : isBlank c with
    | true =>
      rw [splitWords_cons_blank hc, ih]
      simp [hc]
    | false =>
      rw [splitWords_cons hc]
      cases rest with
      | nil => simp [hc]
      | cons d more =>
        cases hd : isBlank d with
        | true => simp [hc, hd, ih]
        | false =>
          obtain ⟨word, rest, hw⟩ := exists_splitWords_cons hd more
          rw [hw] at ih
          simp only [hd, hw, List.filter_cons, hc, Bool.not_false, if_true] at ih ⊢
          simpa using ih

-- ============================================================================
-- Writing words
-- ============================================================================

theorem joinWords_cons_cons (word next : List Char) (rest : List (List Char)) :
    joinWords (word :: next :: rest) = word ++ ' ' :: joinWords (next :: rest) := rfl

/-- Words that are written can be read again. -/
theorem splitWords_joinWords {ws : List (List Char)} (h : ∀ w ∈ ws, IsWord w) :
    splitWords (joinWords ws) = ws := by
  induction ws with
  | nil => rfl
  | cons word rest ih =>
    have first := splitWords_of_isWord (h word List.mem_cons_self)
    cases rest with
    | nil => exact first
    | cons next more =>
      rw [joinWords_cons_cons, splitWords_append_blank isBlank_space, first,
        ih fun w hw => h w (List.mem_cons_of_mem _ hw)]
      rfl

/-- What words are written with, and spaces. -/
theorem mem_joinWords {ws : List (List Char)} {c : Char} (h : c ∈ joinWords ws) :
    c = ' ' ∨ ∃ w ∈ ws, c ∈ w := by
  induction ws with
  | nil => cases h
  | cons word rest ih =>
    cases rest with
    | nil => exact .inr ⟨word, List.mem_cons_self, h⟩
    | cons next more =>
      rw [joinWords_cons_cons, List.mem_append, List.mem_cons] at h
      rcases h with h | rfl | h
      · exact .inr ⟨word, List.mem_cons_self, h⟩
      · exact .inl rfl
      · rcases ih h with rfl | ⟨w, hw, hc⟩
        · exact .inl rfl
        · exact .inr ⟨w, List.mem_cons_of_mem _ hw, hc⟩

-- ============================================================================
-- Strings
-- ============================================================================

theorem toList_unwords (ws : List String) :
    (unwords ws).toList = joinWords (ws.map String.toList) := by
  simp [unwords]

theorem isWord_of_mem_words {text word : String} (h : word ∈ words text) :
    IsWord word.toList := by
  obtain ⟨w, hw, rfl⟩ := List.mem_map.1 h
  simpa using isWord_of_mem_splitWords hw

theorem words_unwords {ws : List String} (h : ∀ w ∈ ws, IsWord w.toList) :
    words (unwords ws) = ws := by
  rw [words, toList_unwords, splitWords_joinWords (by simpa using h)]
  simp

theorem words_append_space (a b : String) : words (a ++ " " ++ b) = words a ++ words b := by
  have same : (a ++ " " ++ b).toList = a.toList ++ ' ' :: b.toList := by simp
  rw [words, same, splitWords_append_blank isBlank_space, List.map_append]
  rfl

end HomeAutomation.Text
