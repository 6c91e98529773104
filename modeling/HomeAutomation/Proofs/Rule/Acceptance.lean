/-
  HomeAutomation.Proofs.Rule.Acceptance

  The parser accepts exactly what the grammar of rules says.  A text is read as a
  rule if and only if its words write that rule, `Rule.parse_eq_ok_iff`.
-/

import HomeAutomation.Proofs.Rule.Command
import HomeAutomation.Proofs.Rule.Turn

namespace HomeAutomation

open Text

/-- The location of a condition has a name. -/
theorem Condition.Written.location_ne_empty {ws : List String} {c : Condition}
    (h : Condition.Written ws c) (isWord : ∀ w ∈ ws, IsWord w.toList) : c.location ≠ "" := by
  have named {location : List String} (filled : location ≠ []) (part : location ⊆ ws) :
      unwords location ≠ "" := fun empty =>
    filled ((unwords_eq_empty fun w hw => isWord w (part hw)).1 empty)
  cases h with
  | motion filled | noMotion filled | compare _ _ _ filled =>
    exact named filled fun w hw => by simp [hw]

namespace Rule

variable {range : SetPointRange} {rule : Rule}

/-- A rule is written by words around a turn if its condition is by those before and its command
    by those after. -/
theorem written_turn_iff {before after : List String} (filled : before ≠ []) (kept : after ≠ []) :
    Written range ("if" :: (before ++ "then" :: after)) (before.length + 1) rule ↔
      "then" ∉ before.tail ∧
      (∃ spaced, Condition.Spaced (unwords before).toList spaced ∧
        Condition.Written (words (String.ofList spaced)) rule.condition) ∧
      ∃ p, ActionSpec.Written range rule.condition.location after p rule.action := by
  have front : (("if" :: (before ++ "then" :: after)).take (before.length + 1)).drop 1
      = before := by simp
  have back : ("if" :: (before ++ "then" :: after)).drop (before.length + 1 + 1) = after := by
    simp
  have turn := isLeast_turn_iff "if" filled kept
  constructor
  · rintro ⟨-, least, condition, action⟩
    rw [front] at condition
    rw [back] at action
    exact ⟨turn.1 least, condition, action⟩
  · rintro ⟨unsplit, condition, action⟩
    refine ⟨rfl, turn.2 unsplit, ?_, ?_⟩
    · rw [front]
      exact condition
    · rw [back]
      exact action

/-- What is read of a text is what its words around the turn write. -/
theorem parse_of_turn_eq_ok_iff {text : String} {before after : List String} (filled : before ≠ [])
    (kept : after ≠ []) (unsplit : "then" ∉ before.tail)
    (words : normalWords text = "if" :: (before ++ "then" :: after)) :
    parse range text = .ok rule ↔
      Written range (normalWords text) (before.length + 1) rule := by
  have normal : ∀ w ∈ before ++ after, IsNormal w := by
    intro w hw
    have word : w ∈ normalWords text := by
      rw [words]
      simp only [List.mem_append, List.mem_cons] at hw ⊢
      rcases hw with hw | hw
      · exact .inr (.inl hw)
      · exact .inr (.inr (.inr hw))
    exact isNormal_of_mem_normalWords word
  have normal_before : ∀ w ∈ before, IsNormal w := fun w hw =>
    normal w (List.mem_append_left _ hw)
  have normal_after : ∀ w ∈ after, IsNormal w := fun w hw =>
    normal w (List.mem_append_right _ hw)
  rw [parse_of_turn filled kept unsplit words, words, written_turn_iff filled kept, bind_eq_ok_iff]
  constructor
  · rintro ⟨condition, read, h⟩
    obtain ⟨action, acts, h⟩ := bind_eq_ok_iff.1 h
    cases h
    obtain ⟨spaced, signs, written⟩ :=
      (Condition.parse_unwords_eq_ok_iff normal_before).1 read
    have named := written.location_ne_empty fun w => isWord_of_mem_words
    exact ⟨unsplit, ⟨spaced, signs, written⟩,
      (ActionSpec.parse_unwords_eq_ok_iff normal_after named).1 acts⟩
  · rintro ⟨-, ⟨spaced, signs, written⟩, acts⟩
    have named := written.location_ne_empty fun w => isWord_of_mem_words
    refine ⟨rule.condition,
      (Condition.parse_unwords_eq_ok_iff normal_before).2 ⟨spaced, signs, written⟩, ?_⟩
    rw [(ActionSpec.parse_unwords_eq_ok_iff normal_after named).2 acts]
    rfl

/-- Every rule that is read is written by the words of its text. -/
theorem written_of_parse {text : String} (h : parse range text = .ok rule) :
    ∃ i, Written range (normalWords text) i rule := by
  obtain ⟨before, after, filled, kept, unsplit, words⟩ := exists_turn_of_parse h
  exact ⟨_, (parse_of_turn_eq_ok_iff filled kept unsplit words).1 h⟩

/-- Every rule that words write is read from their text. -/
theorem parse_of_written {text : String} {i : Nat} (h : Written range (normalWords text) i rule) :
    parse range text = .ok rule := by
  obtain ⟨late, at_turn, more⟩ := h.turn.1
  obtain ⟨start, rest, words⟩ : ∃ start rest, normalWords text = start :: rest := by
    apply List.exists_cons_of_ne_nil
    intro none
    have := h.starts
    rw [none] at this
    cases this
  obtain rfl : start = "if" := by
    have := h.starts
    rw [words] at this
    exact Option.some.inj this
  obtain ⟨k, rfl⟩ : ∃ k, i = k + 1 := ⟨i - 1, by omega⟩
  have split : rest = rest.take k ++ "then" :: rest.drop (k + 1) := by
    rw [words, List.getElem?_cons_succ] at at_turn
    exact eq_take_append at_turn
  have long : k + 1 < rest.length := by
    rw [words, List.length_cons] at more
    omega
  have length : (rest.take k).length = k := by
    rw [List.length_take]
    omega
  have filled : rest.take k ≠ [] := by
    intro none
    rw [none] at length
    rw [List.length_nil] at length
    omega
  have kept : rest.drop (k + 1) ≠ [] := by
    intro none
    have := List.drop_eq_nil_iff.1 none
    omega
  have words' : normalWords text = "if" :: (rest.take k ++ "then" :: rest.drop (k + 1)) := by
    rw [← split]
    exact words
  have turned : Written range (normalWords text) ((rest.take k).length + 1) rule := by
    rw [length]
    exact h
  have unsplit : "then" ∉ (rest.take k).tail := by
    rw [words'] at turned
    exact ((written_turn_iff filled kept).1 turned).1
  exact (parse_of_turn_eq_ok_iff filled kept unsplit words').2 turned

/-- A text is read as a rule if and only if its words write that rule. -/
theorem parse_eq_ok_iff {text : String} :
    parse range text = .ok rule ↔ ∃ i, Written range (normalWords text) i rule := by
  constructor
  · exact written_of_parse
  · rintro ⟨i, h⟩
    exact parse_of_written h

end Rule

end HomeAutomation
