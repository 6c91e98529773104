/-
  HomeAutomation.Proofs.Text.Normal

  The normal form.  A text is brought into it piece by piece between spaces, and
  its words are normal: bringing them into normal form again changes nothing.
-/

import HomeAutomation.Proofs.Text.LowerCase
import HomeAutomation.Text.Normal

namespace HomeAutomation.Text

/-- The words of normal forms. -/
structure IsNormal (word : String) : Prop where
  isWord : IsWord word.toList
  settled : ∀ c ∈ word.toList, IsSettled c

theorem normalWords_append_space (a b : String) :
    normalWords (a ++ " " ++ b) = normalWords a ++ normalWords b := by
  rw [normalWords, lower_append_space, words_append_space]
  rfl

theorem normalWords_append_blank {b : Char} (hb : isBlank b = true) (before after : List Char) :
    normalWords (String.ofList (before ++ b :: after))
      = normalWords (String.ofList before) ++ normalWords (String.ofList after) := by
  simp only [normalWords, words, lower, String.toList_ofList, lowerFrom_append_blank hb,
    splitWords_append_blank hb, List.map_append]

/-- Blanks only, if anything. -/
def IsGap (gap : String) : Prop := ∀ c ∈ gap.toList, isBlank c = true

instance (gap : String) : Decidable (IsGap gap) := List.decidableBAll _ gap.toList

theorem IsGap.append {gap more : String} (h : IsGap gap) (h' : IsGap more) : IsGap (gap ++ more) := by
  intro c hc
  rw [String.toList_append, List.mem_append] at hc
  exact hc.elim (h c) (h' c)

/-- A gap before a text adds no words. -/
theorem normalWords_gap_append {gap : String} (blank : IsGap gap) (text : String) :
    normalWords (gap ++ text) = normalWords text := by
  have chars (cs : List Char) (h : ∀ c ∈ cs, isBlank c = true) :
      normalWords (String.ofList (cs ++ text.toList)) = normalWords text := by
    induction cs with
    | nil => rw [List.nil_append, String.ofList_toList]
    | cons c rest ih =>
      rw [List.cons_append, ← List.nil_append (c :: _),
        normalWords_append_blank (h c List.mem_cons_self),
        ih fun x hx => h x (List.mem_cons_of_mem _ hx),
        show normalWords (String.ofList []) = [] from rfl, List.nil_append]
  have text' := chars gap.toList blank
  rwa [← String.toList_append, String.ofList_toList] at text'

/-- A gap ends a word, however wide it is. -/
theorem normalWords_append_gap {gap : String} (blank : IsGap gap) (filled : gap ≠ "")
    (before after : String) :
    normalWords (before ++ gap ++ after) = normalWords before ++ normalWords after := by
  obtain ⟨b, rest, split⟩ : ∃ b rest, gap.toList = b :: rest :=
    List.exists_cons_of_ne_nil (by simpa using filled)
  have hb : isBlank b = true := blank b (split ▸ List.mem_cons_self)
  have later : IsGap (String.ofList rest) := fun c hc =>
    blank c (split ▸ List.mem_cons_of_mem _ (by simpa using hc))
  have text : before ++ gap ++ after
      = String.ofList (before.toList ++ b :: (String.ofList rest ++ after).toList) := by
    apply String.toList_injective
    simp [split]
  rw [text, normalWords_append_blank hb, String.ofList_toList, String.ofList_toList,
    normalWords_gap_append later]

theorem mem_of_mem_splitWords {cs word : List Char} {c : Char} (h : word ∈ splitWords cs)
    (hc : c ∈ word) : c ∈ cs :=
  (List.mem_filter.1 (flatten_splitWords cs ▸ List.mem_flatten.2 ⟨word, h, hc⟩)).1

theorem isNormal_of_mem_normalWords {text word : String} (h : word ∈ normalWords text) :
    IsNormal word := by
  refine ⟨isWord_of_mem_words h, fun c hc => ?_⟩
  obtain ⟨w, hw, rfl⟩ := List.mem_map.1 h
  have lowered := mem_of_mem_splitWords hw (by simpa using hc)
  exact isSettled_of_mem_lowerFrom (by simpa [lower] using lowered)

theorem lower_eq_self {text : String} (h : ∀ c ∈ text.toList, IsSettled c) : lower text = text := by
  rw [lower, lowerFrom_of_isSettled h]
  simp

theorem isSettled_of_mem_unwords {ws : List String} (h : ∀ w ∈ ws, IsNormal w) {c : Char}
    (hc : c ∈ (unwords ws).toList) : IsSettled c := by
  rw [toList_unwords] at hc
  rcases mem_joinWords hc with rfl | ⟨w, hw, hc⟩
  · exact isSettled_of_isBlank isBlank_space
  · obtain ⟨word, hword, rfl⟩ := List.mem_map.1 hw
    exact (h word hword).settled c hc

/-- Normal words are read again as they were written. -/
theorem normalWords_unwords {ws : List String} (h : ∀ w ∈ ws, IsNormal w) :
    normalWords (unwords ws) = ws := by
  rw [normalWords, lower_eq_self fun _ => isSettled_of_mem_unwords h,
    words_unwords fun w hw => (h w hw).isWord]

theorem words_normalize (text : String) : words (normalize text) = normalWords text :=
  words_unwords fun _ hw => (isNormal_of_mem_normalWords hw).isWord

theorem normalize_unwords {ws : List String} (h : ∀ w ∈ ws, IsNormal w) :
    normalize (unwords ws) = unwords ws :=
  congrArg unwords (normalWords_unwords h)

/-- The normal form of a normal form is itself. -/
theorem normalize_normalize (text : String) : normalize (normalize text) = normalize text :=
  normalize_unwords fun _ => isNormal_of_mem_normalWords

theorem unwords_eq_empty {ws : List String} (h : ∀ w ∈ ws, IsWord w.toList) :
    unwords ws = "" ↔ ws = [] := by
  constructor
  · intro empty
    rw [← words_unwords h, empty]
    rfl
  · rintro rfl
    rfl

/-- Words are known by what is written with them. -/
theorem unwords_inj {ws ws' : List String} (h : ∀ w ∈ ws, IsWord w.toList)
    (h' : ∀ w ∈ ws', IsWord w.toList) : unwords ws = unwords ws' ↔ ws = ws' := by
  constructor
  · intro same
    rw [← words_unwords h, same, words_unwords h']
  · rintro rfl
    rfl

end HomeAutomation.Text
