/-
  HomeAutomation.Proofs.Rule.Grammar

  The grammar of rules, said of the words of a text without regard to how they
  are read.  A rule is written by words if they fall into "if", a condition,
  "then" and a command, the turn being at the first "then" that leaves both a
  word.  Signs in a condition are spaced before it is looked at; a command is
  taken apart at its first word that switches.

  `Rule.Written`, `Condition.Written` and `ActionSpec.Written` are the relations.
  The lemmas here are about words, signs and conditions.
-/

import Mathlib.Order.Bounds.Basic
import HomeAutomation.Proofs.Rule.Parser
import HomeAutomation.Proofs.Rule.Spacing

namespace HomeAutomation

open Text

-- ============================================================================
-- Words
-- ============================================================================

/-- The words for metrics. -/
def metricWords : List (String × String) :=
  [("temp", "temperature"), ("temperature", "temperature"), ("humidity", "humidity")]

/-- The words for types of devices. -/
def deviceWords : List (String × DeviceKind) :=
  [("ac", .ac), ("light", .light), ("lights", .light), ("fan", .fan)]

/-- The words that switch. -/
def powerWords : List (String × Bool) := [("on", true), ("off", false)]

/-- A word is a numeral of a finite number. -/
def Denotes (word : String) (value : Double) : Prop :=
  Number.readDouble? word = some value ∧ value.isFinite = true

theorem metricOfWord?_eq_some_iff {word metric : String} :
    metricOfWord? word = some metric ↔ (word, metric) ∈ metricWords := by
  constructor
  · intro h
    unfold metricOfWord? at h
    split at h <;> cases h <;> simp [metricWords]
  · intro h
    simp only [metricWords, List.mem_cons, Prod.mk.injEq, List.not_mem_nil, or_false] at h
    rcases h with ⟨rfl, rfl⟩ | ⟨rfl, rfl⟩ | ⟨rfl, rfl⟩ <;> rfl

theorem deviceOfWord?_eq_some_iff {word : String} {device : DeviceKind} :
    deviceOfWord? word = some device ↔ (word, device) ∈ deviceWords := by
  constructor
  · intro h
    unfold deviceOfWord? at h
    split at h <;> cases h <;> simp [deviceWords]
  · intro h
    simp only [deviceWords, List.mem_cons, Prod.mk.injEq, List.not_mem_nil, or_false] at h
    rcases h with ⟨rfl, rfl⟩ | ⟨rfl, rfl⟩ | ⟨rfl, rfl⟩ | ⟨rfl, rfl⟩ <;> rfl

theorem powerOfWord?_eq_some_iff {word : String} {power : Bool} :
    powerOfWord? word = some power ↔ (word, power) ∈ powerWords := by
  constructor
  · intro h
    unfold powerOfWord? at h
    split at h <;> cases h <;> simp [powerWords]
  · intro h
    simp only [powerWords, List.mem_cons, Prod.mk.injEq, List.not_mem_nil, or_false] at h
    rcases h with ⟨rfl, rfl⟩ | ⟨rfl, rfl⟩ <;> rfl

theorem finiteNumber?_eq_some_iff {word : String} {value : Double} :
    finiteNumber? word = some value ↔ Denotes word value :=
  Option.filter_eq_some_iff

namespace Comparison

theorem symbol_of_ofSymbol? {sign : String} {comparison : Comparison}
    (h : ofSymbol? sign = some comparison) : comparison.symbol = sign := by
  unfold ofSymbol? at h
  split at h <;> cases h <;> rfl

end Comparison

-- ============================================================================
-- The grammar
-- ============================================================================

namespace Condition

/-- The sign with which a text starts, a longer sign before a shorter one. -/
def leadingSign? (cs : List Char) : Option (List Char) := signs.find? (·.isPrefixOf cs)

/-- A text, looked through from the left, with a space on both sides of every sign. -/
inductive Spaced : List Char → List Char → Prop
  | nil : Spaced [] []
  | sign {sign rest spaced : List Char} (starts : leadingSign? (sign ++ rest) = some sign)
      (tail : Spaced rest spaced) : Spaced (sign ++ rest) (' ' :: (sign ++ ' ' :: spaced))
  | other {c : Char} {rest spaced : List Char} (starts : leadingSign? (c :: rest) = none)
      (tail : Spaced rest spaced) : Spaced (c :: rest) (c :: spaced)

/-- The conditions that words write, with signs standing alone. -/
inductive Written : List String → Condition → Prop
  | motion {location : List String} (filled : location ≠ []) :
      Written ("motion" :: "in" :: location) (.motion (unwords location) true)
  | noMotion {location : List String} (filled : location ≠ []) :
      Written ("no" :: "motion" :: "in" :: location) (.motion (unwords location) false)
  | compare {word metric numeral : String} {threshold : Double} {location : List String}
      (known : (word, metric) ∈ metricWords) (comparison : Comparison)
      (number : Denotes numeral threshold) (filled : location ≠ []) :
      Written (word :: comparison.symbol :: numeral :: "in" :: location)
        (.compare metric comparison threshold (unwords location))

end Condition

namespace ActionSpec

/-- A word is a number from 0 to 100 with a percent sign, and says a whole percentage. -/
def Percentage (word : String) (level : Int) : Prop :=
  ∃ numeral value, word = numeral ++ "%" ∧ Denotes numeral value ∧
    Double.le 0 value = true ∧ value.le 100 = true ∧ value.truncate? = some level

/-- The parameter that is to be the brightness: the first of a light with a percent sign. -/
def levelWord? (device : DeviceKind) (parameters : List String) : Option String :=
  if device = .light then parameters.find? isPercentage else none

/-- The parameters that are not the brightness, in their order. -/
def plainWords (device : DeviceKind) (parameters : List String) : List String :=
  if device = .light then parameters.eraseP isPercentage else parameters

/-- Whether a word is a numeral of a finite number. -/
def isNumeral (word : String) : Bool := (finiteNumber? word).isSome

/-- What becomes of the parameters of a command.  Of those that are not the brightness the first
    numeral is the temperature, the first other word is the mode, and the rest are kept. -/
structure Dealt (parameters : List String) (a : ActionSpec) : Prop where
  brightness : Option.Rel Percentage (levelWord? a.device parameters) a.brightness
  temperature : a.temperature = (plainWords a.device parameters).findSome? finiteNumber?
  mode : a.mode = (plainWords a.device parameters).find? (!isNumeral ·)
  extras : a.extras
    = ((plainWords a.device parameters).eraseP isNumeral).eraseP (!isNumeral ·)

/-- A command is written by words, the first of which that switches has the number `p`.  A command
    without words for its location has a given one. -/
structure Written (range : SetPointRange) (given : String) (ws : List String) (p : Nat)
    (a : ActionSpec) : Prop where
  first : IsLeast {k | ∃ word power, ws[k]? = some word ∧ (word, power) ∈ powerWords} p
  power : ∃ word, ws[p]? = some word ∧ (word, a.power) ∈ powerWords
  device : ∃ word, 1 ≤ p ∧ ws[p - 1]? = some word ∧ (word, a.device) ∈ deviceWords
  location : a.location = if p = 1 then given else unwords (ws.take (p - 1))
  dealt : a.Dealt (ws.drop (p + 1))
  range : ∀ t, a.device = .ac → a.temperature = some t → range.contains t = true

end ActionSpec

/-- A rule is written by words, the number of the "then" between condition and command being
    `i`. -/
structure Rule.Written (range : SetPointRange) (ws : List String) (i : Nat) (rule : Rule) :
    Prop where
  starts : ws[0]? = some "if"
  turn : IsLeast {k | 2 ≤ k ∧ ws[k]? = some "then" ∧ k + 1 < ws.length} i
  condition : ∃ spaced, Condition.Spaced (unwords ((ws.take i).drop 1)).toList spaced ∧
    Condition.Written (words (String.ofList spaced)) rule.condition
  action : ∃ p, ActionSpec.Written range rule.condition.location (ws.drop (i + 1)) p rule.action

-- ============================================================================
-- Signs
-- ============================================================================

namespace Condition

theorem mem_signs_of_leadingSign? {cs sign : List Char} (h : leadingSign? cs = some sign) :
    sign ∈ signs := List.mem_of_find?_eq_some h

/-- A sign of one character is not followed by one that would make it longer. -/
theorem not_equals_of_leadingSign? {c : Char} {rest : List Char} (hc : c = '>' ∨ c = '<')
    (h : leadingSign? (c :: rest) = some [c]) (more : List Char) : rest ≠ '=' :: more := by
  rintro rfl
  rcases hc with rfl | rfl <;> simp [leadingSign?, signs] at h

/-- A leading sign is spaced. -/
theorem spaceSigns_of_leadingSign? {sign rest : List Char}
    (h : leadingSign? (sign ++ rest) = some sign) :
    spaceSigns (sign ++ rest) = ' ' :: (sign ++ ' ' :: spaceSigns rest) := by
  have known := mem_signs_of_leadingSign? h
  simp only [signs, List.mem_cons, List.not_mem_nil, or_false] at known
  rcases known with rfl | rfl | rfl | rfl | rfl
  · simp [spaceSigns]
  · simp [spaceSigns]
  · simp [spaceSigns]
  · exact spaceSigns.eq_4 _ (not_equals_of_leadingSign? (.inl rfl) h)
  · exact spaceSigns.eq_5 _ (not_equals_of_leadingSign? (.inr rfl) h)

/-- A character that starts no sign is left as it is. -/
theorem spaceSigns_of_no_sign {c : Char} {rest : List Char}
    (h : leadingSign? (c :: rest) = none) : spaceSigns (c :: rest) = c :: spaceSigns rest := by
  have apart : ∀ sign ∈ signs, sign.isPrefixOf (c :: rest) = false := by
    intro sign known
    exact Bool.eq_false_iff.2 (List.find?_eq_none.1 h sign known)
  have greater : c ≠ '>' := by
    rintro rfl
    have := apart ['>'] (by simp [signs])
    simp at this
  have less : c ≠ '<' := by
    rintro rfl
    have := apart ['<'] (by simp [signs])
    simp at this
  have double : ∀ more, c = '=' → rest = '=' :: more → False := by
    rintro more rfl rfl
    have := apart ['=', '='] (by simp [signs])
    simp at this
  exact spaceSigns.eq_6 _ _ (fun _ h => absurd h greater) (fun _ h => absurd h less) double
    greater less

theorem Spaced.eq_spaceSigns {cs spaced : List Char} (h : Spaced cs spaced) :
    spaced = spaceSigns cs := by
  induction h with
  | nil => rfl
  | sign starts _ ih => rw [spaceSigns_of_leadingSign? starts, ih]
  | other starts _ ih => rw [spaceSigns_of_no_sign starts, ih]

theorem spaced_spaceSigns (cs : List Char) : Spaced cs (spaceSigns cs) := by
  have leading {sign cs : List Char} (starts : leadingSign? cs = some sign) :
      ∃ rest, cs = sign ++ rest ∧ sign ≠ [] := by
    have found := List.find?_some starts
    obtain ⟨rest, rfl⟩ := List.isPrefixOf_iff_prefix.1 found
    have known := mem_signs_of_leadingSign? starts
    refine ⟨rest, rfl, ?_⟩
    rintro rfl
    simp [signs] at known
  induction hn : cs.length using Nat.strong_induction_on generalizing cs with
  | _ n ih =>
    cases starts : leadingSign? cs with
    | some sign =>
      obtain ⟨rest, rfl, filled⟩ := leading starts
      have shorter : rest.length < n := by
        have := List.length_pos_iff.2 filled
        rw [List.length_append] at hn
        omega
      rw [spaceSigns_of_leadingSign? starts]
      exact .sign starts (ih rest.length shorter rest rfl)
    | none =>
      cases cs with
      | nil => exact .nil
      | cons c rest =>
        have shorter : rest.length < n := by
          rw [List.length_cons] at hn
          omega
        rw [spaceSigns_of_no_sign starts]
        exact .other starts (ih rest.length shorter rest rfl)

-- ============================================================================
-- Conditions
-- ============================================================================

theorem ofParts_eq_ok_iff {word numeral location : String} {comparison : Comparison}
    {c : Condition} :
    ofParts word comparison numeral location = .ok c ↔
      ∃ metric threshold, (word, metric) ∈ metricWords ∧ Denotes numeral threshold ∧
        c = .compare metric comparison threshold location := by
  unfold ofParts
  constructor
  · intro h
    split at h
    · cases h
    · rename_i metric known
      split at h
      · cases h
      · rename_i threshold number
        cases h
        exact ⟨metric, threshold, metricOfWord?_eq_some_iff.1 known,
          finiteNumber?_eq_some_iff.1 number, rfl⟩
  · rintro ⟨metric, threshold, known, number, rfl⟩
    rw [metricOfWord?_eq_some_iff.2 known]
    dsimp only
    rw [finiteNumber?_eq_some_iff.2 number]

theorem written_of_ofWords {ws : List String} {c : Condition} (h : ofWords ws = .ok c) :
    Written ws c := by
  unfold ofWords at h
  split at h
  · cases h
    exact .motion (List.cons_ne_nil _ _)
  · cases h
    exact .noMotion (List.cons_ne_nil _ _)
  · split at h
    · rename_i comparison sign
      obtain ⟨metric, threshold, known, number, rfl⟩ := ofParts_eq_ok_iff.1 h
      rw [← Comparison.symbol_of_ofSymbol? sign]
      exact .compare known comparison number (List.cons_ne_nil _ _)
    · cases h
  · cases h

theorem Written.ofWords {ws : List String} {c : Condition} (h : Written ws c) :
    ofWords ws = .ok c := by
  cases h with
  | motion filled | noMotion filled =>
    obtain ⟨first, rest, rfl⟩ := List.exists_cons_of_ne_nil filled
    rfl
  | @compare word metric numeral threshold location known comparison number filled =>
    obtain ⟨first, rest, rfl⟩ := List.exists_cons_of_ne_nil filled
    have parts : ofParts word comparison numeral (unwords (first :: rest))
        = .ok (.compare metric comparison threshold (unwords (first :: rest))) :=
      ofParts_eq_ok_iff.2 ⟨metric, threshold, known, number, rfl⟩
    -- the words of the three metrics do not start a condition on motion
    simp only [metricWords, List.mem_cons, Prod.mk.injEq, List.not_mem_nil, or_false] at known
    rcases known with ⟨rfl, rfl⟩ | ⟨rfl, rfl⟩ | ⟨rfl, rfl⟩ <;> cases comparison <;> exact parts

/-- A condition is read from a text of normal words if its words, with signs spaced, write it. -/
theorem parse_unwords_eq_ok_iff {ws : List String} (normal : ∀ w ∈ ws, IsNormal w)
    {c : Condition} :
    parse (unwords ws) = .ok c ↔
      ∃ spaced, Spaced (unwords ws).toList spaced ∧ Written (words (String.ofList spaced)) c := by
  have read : parse (unwords ws) = .ok c
      ↔ ofWords (words (String.ofList (spaceSigns (unwords ws).toList))) = .ok c := by
    unfold parse
    rw [sourceWords_eq_words normal]
    dsimp only
    generalize ofWords (words (String.ofList (spaceSigns (unwords ws).toList))) = result
    cases result with
    | error fault => simp [Except.mapError]
    | ok c' => simp [Except.mapError]
  rw [read]
  constructor
  · intro h
    exact ⟨_, spaced_spaceSigns _, written_of_ofWords h⟩
  · rintro ⟨spaced, signs, written⟩
    rw [signs.eq_spaceSigns] at written
    exact written.ofWords

end Condition

end HomeAutomation
