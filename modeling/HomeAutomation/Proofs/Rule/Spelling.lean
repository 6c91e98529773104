/-
  HomeAutomation.Proofs.Rule.Spelling

  How comparisons may be spelled.  A text for a comparison has a word for the
  metric, a comparison sign, a numeral and the name of a location; blanks may
  stand around the sign, and letters may be of either case.  What is read is the
  metric, the comparison, the number and the location, whatever the spelling.
-/

import HomeAutomation.Proofs.Number.Numeral
import HomeAutomation.Proofs.Rule.Grammar
import HomeAutomation.Proofs.Rule.Location

namespace HomeAutomation

open Text

namespace Condition

-- ============================================================================
-- Clear texts
-- ============================================================================

/-- A text without characters of signs. -/
def IsClear (text : String) : Prop := ∀ c ∈ text.toList, c ∉ signChars

instance (text : String) : Decidable (IsClear text) := List.decidableBAll _ text.toList

theorem IsClear.append {a b : String} (ha : IsClear a) (hb : IsClear b) : IsClear (a ++ b) := by
  intro c hc
  rw [String.toList_append, List.mem_append] at hc
  exact hc.elim (ha c) (hb c)

theorem isClear_of_isGap {gap : String} (h : IsGap gap) : IsClear gap := fun c hc =>
  not_mem_signChars_of_isBlank (h c hc)

theorem isClear_of_numeral {numeral : String} {value : Double} (isWord : IsWord numeral.toList)
    (h : Number.readDouble? numeral = some value) : IsClear numeral := by
  intro c hc sign
  have apart : ∀ c ∈ signChars, Number.isNumeralChar c = false :=
    forall_mem_of_all (by decide)
  exact absurd (Number.isNumeralChar_of_mem_word isWord h c hc) (by simp [apart c sign])

/-- A sign is spaced if what follows cannot make it longer. -/
theorem spaceSigns_symbol (comparison : Comparison) {rest : List Char}
    (apart : ∀ more, rest = '=' :: more → False) :
    spaceSigns (comparison.symbol.toList ++ rest)
      = ' ' :: (comparison.symbol.toList ++ ' ' :: spaceSigns rest) := by
  cases comparison with
  | greater => exact spaceSigns.eq_4 rest apart
  | less => exact spaceSigns.eq_5 rest apart
  | atLeast => exact spaceSigns.eq_1 rest
  | atMost => exact spaceSigns.eq_2 rest
  | equal => exact spaceSigns.eq_3 rest

/-- Signs are spaced in the text around one on their own. -/
theorem sourceWords_append_symbol {head tail : String} (clear : IsClear head)
    (clear' : IsClear tail) (filled : tail ≠ "") (comparison : Comparison) (place : String) :
    sourceWords (head ++ comparison.symbol ++ tail ++ place)
      = normalWords (head ++ " " ++ comparison.symbol ++ " " ++ tail
          ++ String.ofList (spaceSigns place.toList)) := by
  have apart (more : List Char) : tail.toList ++ place.toList = '=' :: more → False := by
    intro same
    obtain ⟨first, others, split⟩ :=
      List.exists_cons_of_ne_nil (show tail.toList ≠ [] by simpa using filled)
    rw [split, List.cons_append] at same
    refine clear' '=' ?_ (by simp [signChars])
    rw [split, (List.cons.inj same).1]
    exact List.mem_cons_self
  unfold sourceWords
  refine congrArg normalWords (String.toList_injective ?_)
  rw [String.toList_ofList]
  simp only [String.toList_append, String.toList_ofList, List.append_assoc]
  rw [spaceSigns_append_of_clear clear, spaceSigns_symbol comparison apart,
    spaceSigns_append_of_clear clear']
  simp

-- ============================================================================
-- Spellings
-- ============================================================================

/-- The parts of a text for a comparison. -/
structure Spelling (metric : String) (value : Double) where
  word : String
  numeral : String
  place : String
  /-- The blanks before the word, on both sides of the sign, and on both sides of "in". -/
  margin : String := ""
  left : String := ""
  right : String := ""
  before : String := " "
  after : String := " "
  known : (word, metric) ∈ metricWords
  isWord : IsWord numeral.toList
  number : Denotes numeral value
  filled : normalWords place ≠ []
  blank : ∀ gap ∈ [margin, left, right, before, after], IsGap gap
  apart : before ≠ "" ∧ after ≠ ""

variable {metric : String} {value : Double}

/-- The text with a comparison sign. -/
def Spelling.text (s : Spelling metric value) (comparison : Comparison) : String :=
  (s.margin ++ s.word ++ s.left) ++ comparison.symbol
    ++ (s.right ++ s.numeral ++ s.before ++ "in" ++ s.after) ++ s.place

theorem normalWords_metricWord {word : String} (known : (word, metric) ∈ metricWords) :
    normalWords word = [word] ∧ IsClear word := by
  have each : ∀ entry ∈ metricWords, normalWords entry.1 = [entry.1] ∧ IsClear entry.1 := by
    decide +kernel
  exact each (word, metric) known

theorem normalWords_numeral {numeral : String} (isWord : IsWord numeral.toList)
    (number : Denotes numeral value) : normalWords numeral = [lower numeral] := by
  rw [normalWords, words, splitWords_of_isWord (Number.isWord_lower_numeral isWord number.1)]
  simp

theorem normalWords_symbol (comparison : Comparison) :
    normalWords comparison.symbol = [comparison.symbol] := by
  cases comparison <;> decide +kernel

/-- The words of a comparison, its sign standing alone. -/
theorem Spelling.sourceWords_text (s : Spelling metric value) (comparison : Comparison) :
    sourceWords (s.text comparison)
      = s.word :: comparison.symbol :: lower s.numeral :: "in" :: sourceWords s.place := by
  obtain ⟨margin, left, right, before, after⟩ :
      IsGap s.margin ∧ IsGap s.left ∧ IsGap s.right ∧ IsGap s.before ∧ IsGap s.after := by
    simpa using s.blank
  obtain ⟨word, clear⟩ := normalWords_metricWord s.known
  have link : normalWords "in" = ["in"] ∧ IsClear "in" := by decide +kernel
  have head : IsClear (s.margin ++ s.word ++ s.left) :=
    ((isClear_of_isGap margin).append clear).append (isClear_of_isGap left)
  have tail : IsClear (s.right ++ s.numeral ++ s.before ++ "in" ++ s.after) :=
    ((((isClear_of_isGap right).append (isClear_of_numeral s.isWord s.number.1)).append
      (isClear_of_isGap before)).append link.2).append (isClear_of_isGap after)
  -- the spaces around the sign make its gaps wide enough
  have text : s.margin ++ s.word ++ s.left ++ " " ++ comparison.symbol ++ " "
        ++ (s.right ++ s.numeral ++ s.before ++ "in" ++ s.after)
        ++ String.ofList (spaceSigns s.place.toList)
      = s.margin ++ s.word ++ (s.left ++ " ") ++ comparison.symbol ++ (" " ++ s.right) ++ s.numeral
        ++ s.before ++ "in" ++ s.after ++ String.ofList (spaceSigns s.place.toList) := by
    simp only [String.append_assoc]
  have space : IsGap " " := by decide
  unfold Spelling.text
  rw [sourceWords_append_symbol head tail (by simp), text,
    normalWords_append_gap after s.apart.2, normalWords_append_gap before s.apart.1,
    normalWords_append_gap (space.append right) (by simp),
    normalWords_append_gap (left.append space) (by simp), normalWords_gap_append margin, word,
    normalWords_symbol, normalWords_numeral s.isWord s.number, link.1, ← sourceWords]
  simp only [List.cons_append, List.nil_append]

/-- The text may be read for what its parts say, and so may any other with the same letters in
    whatever case. -/
theorem Spelling.parse_eq (s : Spelling metric value) (comparison : Comparison) {text : String}
    (letters : lower text = lower (s.text comparison)) :
    parse text = .ok (.compare metric comparison value (ruleLocation s.place)) := by
  have words : sourceWords text
      = s.word :: comparison.symbol :: lower s.numeral :: "in" :: sourceWords s.place := by
    rw [← s.sourceWords_text, sourceWords_eq, sourceWords_eq, normalWords, letters]
    rfl
  have number : Denotes (lower s.numeral) value :=
    ⟨Number.readDouble?_lower s.isWord s.number.1, s.number.2⟩
  have filled : sourceWords s.place ≠ [] := by
    rw [sourceWords_eq]
    exact flatMap_signWords_ne_nil s.filled
  have located : unwords (sourceWords s.place) = ruleLocation s.place := by
    rw [sourceWords_eq, ruleLocation]
  have read := (Written.compare s.known comparison number filled).ofWords
  rw [located] at read
  unfold parse
  rw [words]
  dsimp only
  rw [read]
  rfl

end Condition

-- ============================================================================
-- Rules
-- ============================================================================

/-- The condition of a rule text is written by a text: its words stand between "if" and the
    turn. -/
def Rule.Uses (text condition : String) : Prop :=
  ∃ action, normalWords text = "if" :: (normalWords condition ++ "then" :: action) ∧
    normalWords condition ≠ [] ∧ action ≠ [] ∧ "then" ∉ (normalWords condition).tail

/-- A condition is read alike from a text and from its normal form. -/
theorem Condition.parse_normalize (text : String) : parse (Text.normalize text) = parse text := by
  have words : sourceWords (Text.normalize text) = sourceWords text := by
    rw [sourceWords_eq, sourceWords_eq, Text.normalize,
      normalWords_unwords fun _ => isNormal_of_mem_normalWords]
  unfold parse
  rw [words]

/-- A rule has the condition that is read from the text for it. -/
theorem Rule.Uses.parse_condition {range : SetPointRange} {text condition : String}
    (uses : Rule.Uses text condition) {rule : Rule} (h : Rule.parse range text = .ok rule) :
    Condition.parse condition = .ok rule.condition := by
  obtain ⟨action, words, filled, kept, unsplit⟩ := uses
  rw [parse_of_turn filled kept unsplit words] at h
  obtain ⟨c, read, h⟩ := bind_eq_ok_iff.1 h
  obtain ⟨a, -, h⟩ := bind_eq_ok_iff.1 h
  cases h
  rw [← Condition.parse_normalize]
  exact read

end HomeAutomation
