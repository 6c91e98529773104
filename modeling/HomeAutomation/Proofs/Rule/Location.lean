/-
  HomeAutomation.Proofs.Rule.Location

  Locations in rule texts.  A rule that switches the light on at a location, by
  motion there or by heat, can be read whatever the location is called, as long
  as its name has a word and none of its words is "then".  What is read as the
  location is the name with its comparison signs spaced; that is the normal form
  of the name if and only if every word of it is whole.
-/

import HomeAutomation.Proofs.Rule.Spacing
import HomeAutomation.Proofs.Rule.Turn

namespace HomeAutomation

open Text

-- ============================================================================
-- Reading rules by their words
-- ============================================================================

/-- A rule is read from the words before and after "then". -/
theorem Rule.parse_eq {range : SetPointRange} {text first : String} {before others : List String}
    (words : normalWords text = "if" :: (before ++ "then" :: first :: others))
    (filled : before ≠ []) (unsplit : "then" ∉ before) {condition : Condition}
    (read : Condition.ofWords (before.flatMap Condition.signWords) = .ok condition)
    {action : ActionSpec}
    (acts : ActionSpec.parse range (unwords (first :: others)) condition.location = .ok action) :
    Rule.parse range text = .ok ⟨condition, action⟩ := by
  have normal : ∀ w ∈ before, IsNormal w := by
    intro w hw
    have among : w ∈ normalWords text := by simp [words, hw]
    exact isNormal_of_mem_normalWords among
  have condition' : Condition.parse (unwords before) = .ok condition := by
    unfold Condition.parse
    rw [Condition.sourceWords_unwords normal]
    dsimp only
    rw [read]
    rfl
  have unsplit' : "then" ∉ before.tail := fun h => unsplit (List.mem_of_mem_tail h)
  rw [parse_of_turn filled (List.cons_ne_nil _ _) unsplit' words, condition']
  dsimp only [Bind.bind, Except.bind]
  rw [acts]
  rfl

/-- Switching on the light of a location. -/
def lightOn (location : String) : ActionSpec := { device := .light, location, power := true }

theorem ActionSpec.parse_lightOn (range : SetPointRange) {location : String}
    (filled : location ≠ "") :
    ActionSpec.parse range (unwords ["light", "on"]) location = .ok (lightOn location) := by
  have words : normalWords (unwords ["light", "on"]) = ["light", "on"] := by decide +kernel
  have named : location.isEmpty = false := by simpa using filled
  unfold ActionSpec.parse
  rw [words]
  change (if location.isEmpty then Except.error RuleFault.noLocation
    else Except.ok (lightOn location)).mapError _ = _
  rw [named]
  rfl

-- ============================================================================
-- Locations
-- ============================================================================

/-- What a rule text makes of the name of a location. -/
def ruleLocation (name : String) : String :=
  unwords ((normalWords name).flatMap Condition.signWords)

variable {name : String}

theorem isNormal_of_mem_ruleLocation {word : String}
    (h : word ∈ (normalWords name).flatMap Condition.signWords) : IsNormal word := by
  obtain ⟨whole, hw, hp⟩ := List.mem_flatMap.1 h
  exact Condition.isNormal_of_mem_signWords (isNormal_of_mem_normalWords hw) hp

theorem flatMap_signWords_ne_nil (filled : normalWords name ≠ []) :
    (normalWords name).flatMap Condition.signWords ≠ [] := by
  obtain ⟨word, hw⟩ := List.exists_mem_of_ne_nil _ filled
  have isWord := (isNormal_of_mem_normalWords hw).isWord
  intro none
  have parts := List.flatMap_eq_nil_iff.1 none word hw
  have flatten := Condition.flatten_signWords isWord
  rw [parts] at flatten
  exact isWord.filled flatten.symm

/-- Rule texts agree with the normal form about a name whose words are whole. -/
theorem ruleLocation_eq_iff :
    ruleLocation name = Text.normalize name ↔ ∀ w ∈ normalWords name, Condition.IsWhole w := by
  have isWord : ∀ w ∈ normalWords name, IsWord w.toList := fun _ hw =>
    (isNormal_of_mem_normalWords hw).isWord
  have isPart : ∀ w ∈ (normalWords name).flatMap Condition.signWords, IsWord w.toList :=
    fun _ hw => (isNormal_of_mem_ruleLocation hw).isWord
  rw [ruleLocation, Text.normalize, unwords_inj isPart isWord]
  exact Condition.flatMap_signWords_eq_self_iff isWord

theorem ruleLocation_ne_empty (filled : normalWords name ≠ []) : ruleLocation name ≠ "" := by
  rw [ruleLocation, Ne, unwords_eq_empty fun _ hw => (isNormal_of_mem_ruleLocation hw).isWord]
  exact flatMap_signWords_ne_nil filled

theorem normalize_ruleLocation : Text.normalize (ruleLocation name) = ruleLocation name :=
  normalize_unwords fun _ => isNormal_of_mem_ruleLocation

/-- The words of a rule that switches the light on at a location. -/
theorem normalWords_lightRule {start : String} {before : List String}
    (words : normalWords start = "if" :: before) (name : String) :
    normalWords (start ++ " " ++ name ++ " then light on")
      = "if" :: ((before ++ normalWords name) ++ "then" :: "light" :: ["on"]) := by
  have tail : normalWords "then light on" = ["then", "light", "on"] := by decide +kernel
  have text : start ++ " " ++ name ++ " then light on"
      = start ++ " " ++ name ++ " " ++ "then light on" := by
    rw [show " then light on" = " " ++ "then light on" from rfl, ← String.append_assoc]
  rw [text, normalWords_append_space, normalWords_append_space, words, tail]
  rfl

/-- A rule that switches the light on at a location is read if the words before the location and
    the parts of its name are. -/
theorem Rule.parse_lightRule (range : SetPointRange) (condition : Condition) {start : String}
    {before : List String}
    (words : normalWords start = "if" :: before) (whole : before.flatMap Condition.signWords = before)
    (named : "then" ∉ before) {name : String} (filled : normalWords name ≠ [])
    (unsplit : "then" ∉ normalWords name)
    (located : condition.location = ruleLocation name)
    (read : ∀ first more, (normalWords name).flatMap Condition.signWords = first :: more →
      Condition.ofWords (before ++ first :: more) = .ok condition) :
    Rule.parse range (start ++ " " ++ name ++ " then light on")
      = .ok ⟨condition, lightOn (ruleLocation name)⟩ := by
  refine Rule.parse_eq (normalWords_lightRule words name) (by simp [filled])
    (by simp [named, unsplit]) ?_ ?_
  · obtain ⟨first, more, parts⟩ := List.exists_cons_of_ne_nil (flatMap_signWords_ne_nil filled)
    rw [List.flatMap_append, whole, parts]
    exact read first more parts
  · rw [located]
    exact ActionSpec.parse_lightOn range (ruleLocation_ne_empty filled)

section LightRules

variable (range : SetPointRange) (filled : normalWords name ≠ [])
  (unsplit : "then" ∉ normalWords name)
include filled unsplit

/-- The light goes on by motion. -/
theorem Rule.parse_motion :
    Rule.parse range ("if motion in " ++ name ++ " then light on")
      = .ok ⟨.motion (ruleLocation name) true, lightOn (ruleLocation name)⟩ := by
  have words : normalWords "if motion in" = ["if", "motion", "in"] := by decide +kernel
  refine Rule.parse_lightRule range (.motion (ruleLocation name) true) words (by decide +kernel)
    (by decide) filled unsplit rfl fun first more parts => ?_
  rw [ruleLocation, parts]
  rfl

/-- The light goes on by heat. -/
theorem Rule.parse_heat :
    Rule.parse range ("if temp > 25 in " ++ name ++ " then light on")
      = .ok ⟨.compare "temperature" .greater 25 (ruleLocation name),
          lightOn (ruleLocation name)⟩ := by
  have words : normalWords "if temp > 25 in" = ["if", "temp", ">", "25", "in"] := by decide +kernel
  have number : finiteNumber? "25" = some 25 := by decide +kernel
  refine Rule.parse_lightRule range (.compare "temperature" .greater 25 (ruleLocation name)) words
    (by decide +kernel) (by decide) filled unsplit rfl fun first more parts => ?_
  rw [ruleLocation, parts]
  change Condition.ofParts "temp" .greater "25" (unwords (first :: more)) = _
  simp only [Condition.ofParts, metricOfWord?, number]

end LightRules

end HomeAutomation
