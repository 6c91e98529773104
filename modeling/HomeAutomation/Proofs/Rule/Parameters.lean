/-
  HomeAutomation.Proofs.Rule.Parameters

  No parameter of a command is lost, and none is used twice.  The parameters are
  told apart by their places, so that equal words are not mixed up: one of a
  light may be its brightness, one of the others is the temperature and one
  the mode, if there are such, and what is left are the extras, in order.
-/

import Mathlib.Data.List.Sigma
import HomeAutomation.Proofs.Number.Numeral
import HomeAutomation.Proofs.Rule.Command

namespace HomeAutomation

-- ============================================================================
-- Taking out the first
-- ============================================================================

section First

variable {α β : Type} {p q : α → Bool} {l : List α}

theorem perm_find?_eraseP (p : α → Bool) (l : List α) :
    l.Perm ((l.find? p).toList ++ l.eraseP p) := by
  induction l with
  | nil => rfl
  | cons x rest ih =>
    by_cases hx : p x = true
    · rw [List.find?_cons_of_pos hx, List.eraseP_cons_of_pos hx]
      rfl
    · rw [List.find?_cons_of_neg hx, List.eraseP_cons_of_neg hx]
      exact (ih.cons x).trans List.perm_middle.symm

/-- Taking out the first of one kind does not change which is the first of another. -/
theorem find?_eraseP (apart : ∀ x, p x = true → q x = false) (l : List α) :
    (l.eraseP p).find? q = l.find? q := by
  induction l with
  | nil => rfl
  | cons x rest ih =>
    by_cases hx : p x = true
    · rw [List.eraseP_cons_of_pos hx, List.find?_cons_of_neg (by simp [apart x hx])]
    · rw [List.eraseP_cons_of_neg hx, List.find?_cons, List.find?_cons, ih]

/-- Where nothing occurs twice, taking out the first is keeping all others. -/
theorem eraseP_eq_filter [DecidableEq α] (nodup : l.Nodup) (p : α → Bool) :
    l.eraseP p = l.filter fun x => l.find? p ≠ some x := by
  induction l with
  | nil => rfl
  | cons x rest ih =>
    obtain ⟨absent, nodup⟩ := List.nodup_cons.1 nodup
    by_cases hx : p x = true
    · rw [List.eraseP_cons_of_pos hx, List.find?_cons_of_pos hx,
        List.filter_cons_of_neg (by simp)]
      refine (List.filter_eq_self.2 fun y hy => ?_).symm
      have other : x ≠ y := fun same => absent (same ▸ hy)
      simpa using other
    · have kept : rest.find? p ≠ some x := fun found => hx (List.find?_some found)
      rw [List.eraseP_cons_of_neg hx, List.find?_cons_of_neg hx,
        List.filter_cons_of_pos (by simpa using kept), ih nodup]

theorem findSome?_eq_bind (f : α → Option β) (l : List α) :
    l.findSome? f = (l.find? fun x => (f x).isSome).bind f := by
  induction l with
  | nil => rfl
  | cons x rest ih =>
    rw [List.findSome?_cons, List.find?_cons]
    cases hx : f x with
    | none => exact ih
    | some y => exact hx.symm

end First

namespace ActionSpec

open Text

-- ============================================================================
-- Parameters and their places
-- ============================================================================

section Places

variable (device : DeviceKind) (parameters : List String)

/-- The parameter that is the brightness, with its place: the first of a light with a percent
    sign. -/
def levelAt : Option (String × Nat) :=
  if device = .light then parameters.zipIdx.find? (isPercentage ·.1) else none

/-- The parameters that are not the brightness. -/
def remaining : List (String × Nat) :=
  parameters.zipIdx.filter fun t => levelAt device parameters ≠ some t

/-- The parameter that is the temperature: the first numeral of those that remain. -/
def heatAt : Option (String × Nat) := (remaining device parameters).find? (isNumeral ·.1)

/-- The parameter that is the mode: the first of those that remain that is no numeral. -/
def styleAt : Option (String × Nat) := (remaining device parameters).find? (!isNumeral ·.1)

/-- The parameters that are left over. -/
def others : List (String × Nat) :=
  (remaining device parameters).filter fun t =>
    heatAt device parameters ≠ some t && styleAt device parameters ≠ some t

theorem nodup_zipIdx : parameters.zipIdx.Nodup :=
  (List.nodup_zipIdx_map_snd parameters).of_map

theorem levelWord?_eq : levelWord? device parameters = (levelAt device parameters).map (·.1) := by
  unfold levelWord? levelAt
  split
  · conv_lhs => rw [← List.zipIdx_map_fst 0 parameters]
    rw [List.find?_map]
    rfl
  · rfl

theorem remaining_eq : remaining device parameters
    = if device = .light then parameters.zipIdx.eraseP (isPercentage ·.1)
      else parameters.zipIdx := by
  unfold remaining levelAt
  split
  · rw [eraseP_eq_filter (nodup_zipIdx parameters)]
  · exact List.filter_eq_self.2 fun _ _ => by simp

theorem plainWords_eq : plainWords device parameters = (remaining device parameters).map (·.1) := by
  rw [remaining_eq]
  unfold plainWords
  split
  · conv_lhs => rw [← List.zipIdx_map_fst 0 parameters]
    rw [List.eraseP_map]
    rfl
  · exact (List.zipIdx_map_fst 0 parameters).symm

theorem perm_remaining :
    parameters.zipIdx.Perm ((levelAt device parameters).toList ++ remaining device parameters) := by
  rw [remaining_eq]
  unfold levelAt
  split
  · exact perm_find?_eraseP _ _
  · rfl

theorem others_eq : others device parameters
    = ((remaining device parameters).eraseP (isNumeral ·.1)).eraseP (!isNumeral ·.1) := by
  have nodup : (remaining device parameters).Nodup := (nodup_zipIdx parameters).filter _
  rw [eraseP_eq_filter (nodup.eraseP _), find?_eraseP (by simp), eraseP_eq_filter nodup,
    List.filter_filter]
  exact List.filter_congr fun t _ => Bool.and_comm _ _

/-- Every parameter is in one place, and in no other. -/
theorem perm_places : parameters.zipIdx.Perm ((levelAt device parameters).toList
    ++ (heatAt device parameters).toList ++ (styleAt device parameters).toList
    ++ others device parameters) := by
  have heat := perm_find?_eraseP (isNumeral ·.1) (remaining device parameters)
  have style := perm_find?_eraseP (!isNumeral ·.1)
    ((remaining device parameters).eraseP (isNumeral ·.1))
  rw [find?_eraseP (by simp), ← others_eq] at style
  rw [List.append_assoc, List.append_assoc]
  exact (perm_remaining device parameters).trans
    ((heat.trans (style.append_left _)).append_left _)

end Places

-- ============================================================================
-- Reading
-- ============================================================================

/-- A word with a percent sign at its end is no numeral. -/
theorem isNumeral_of_isPercentage {word : String} (percent : isPercentage word = true) :
    isNumeral word = false := by
  rw [Bool.eq_false_iff]
  intro numeral
  obtain ⟨value, number⟩ := isNumeral_eq_true_iff.1 numeral
  have last : word.toList.getLast? = some '%' := by simpa [isPercentage] using percent
  have alien : Number.isMargin '%' = false ∧ Number.isNumeralChar '%' = false := by decide
  have known := Number.isNumeralChar_of_readDouble? (finiteNumber?_eq_some_iff.1 number).1
    (List.mem_of_getLast? last)
  simp [alien] at known

variable {range : SetPointRange} {given text : String} {a : ActionSpec}

/-- What is read as a command deals with the words after the first that switches. -/
theorem exists_dealt_of_ofWords {ws : List String} (h : ofWords range given ws = .ok a) :
    ∃ before power parameters, ws = before ++ power :: parameters ∧
      (power, a.power) ∈ powerWords ∧ (∀ word ∈ before, powerOfWord? word = none) ∧
      a.Dealt parameters := by
  unfold ofWords at h
  split at h
  · cases h
  · rename_i before on parameters split
    obtain ⟨power, switch, rfl, unpowered⟩ := splitPower?_eq_some_iff.1 split
    split at h
    · cases h
    · split at h
      · cases h
      · dsimp only at h
        generalize (if (unwords before.dropLast).isEmpty then given else unwords before.dropLast)
          = location at h
        split at h
        · cases h
        · obtain ⟨b, placed, checked⟩ := bind_eq_ok_iff.1 h
          obtain ⟨rfl, -⟩ := checkRange_eq_ok_iff.1 checked
          obtain ⟨-, -, rfl, dealt⟩ := foldlM_addParameter_eq_ok_iff.1 placed
          exact ⟨before, power, parameters, rfl, switch, unpowered, dealt⟩

/-- The fields of a command are what its parameters say in their places. -/
theorem Dealt.places {parameters : List String} (dealt : a.Dealt parameters) :
    Option.Rel Percentage ((levelAt a.device parameters).map (·.1)) a.brightness ∧
    Option.Rel Denotes ((heatAt a.device parameters).map (·.1)) a.temperature ∧
    a.mode = (styleAt a.device parameters).map (·.1) ∧
    a.extras = (others a.device parameters).map (·.1) := by
  refine ⟨levelWord?_eq a.device parameters ▸ dealt.brightness, ?heat, ?style, ?extras⟩
  case heat =>
    rw [dealt.temperature, plainWords_eq, findSome?_eq_bind, List.find?_map]
    change Option.Rel Denotes ((heatAt a.device parameters).map (·.1))
      (((heatAt a.device parameters).map (·.1)).bind finiteNumber?)
    cases found : heatAt a.device parameters with
    | none => exact .none
    | some t =>
      have numeral := List.find?_some found
      obtain ⟨value, number⟩ := isNumeral_eq_true_iff.1 numeral
      rw [Option.map_some, Option.bind_some, number]
      exact .some (finiteNumber?_eq_some_iff.1 number)
  case style =>
    rw [dealt.mode, plainWords_eq, List.find?_map]
    rfl
  case extras =>
    rw [dealt.extras, plainWords_eq, List.eraseP_map, List.eraseP_map, others_eq]
    rfl

/-- What is read as a command has every parameter in one of its fields.  The brightness of a light
    is the whole number of the first with a percent sign; of those that remain the first numeral
    is the temperature and the first other word the mode; the extras are all others in order.
    Devices other than lights have no brightness, and a word with a percent sign is no numeral. -/
theorem parse_keeps_parameters (h : parse range text given = .ok a) :
    ∃ before power parameters, normalWords text = before ++ power :: parameters ∧
      (power, a.power) ∈ powerWords ∧ (∀ word ∈ before, powerOfWord? word = none) ∧
      Option.Rel Percentage ((levelAt a.device parameters).map (·.1)) a.brightness ∧
      Option.Rel Denotes ((heatAt a.device parameters).map (·.1)) a.temperature ∧
      a.mode = (styleAt a.device parameters).map (·.1) ∧
      a.extras = (others a.device parameters).map (·.1) ∧
      parameters.zipIdx.Perm ((levelAt a.device parameters).toList
        ++ (heatAt a.device parameters).toList ++ (styleAt a.device parameters).toList
        ++ others a.device parameters) ∧
      (a.device ≠ .light → a.brightness = none) ∧
      ∀ word ∈ parameters, isPercentage word = true → isNumeral word = false := by
  have read : ofWords range given (normalWords text) = .ok a := by
    unfold parse at h
    cases result : ofWords range given (normalWords text) with
    | error fault =>
      rw [result] at h
      cases h
    | ok b =>
      rw [result] at h
      obtain rfl : b = a := Except.ok.inj h
      rfl
  obtain ⟨before, power, parameters, words, switch, unpowered, dealt⟩ :=
    exists_dealt_of_ofWords read
  obtain ⟨level, heat, style, extras⟩ := dealt.places
  refine ⟨before, power, parameters, words, switch, unpowered, level, heat, style, extras,
    perm_places a.device parameters, fun other => ?_, fun _ _ => isNumeral_of_isPercentage⟩
  rw [levelAt, if_neg other] at level
  generalize a.brightness = brightness at level
  cases level
  rfl

/-- A command for a light with two of each kind of parameter. -/
def brightHall : ActionSpec where
  device := .light
  location := "hall"
  power := true
  temperature := some 21
  mode := some "nan"
  brightness := some 50
  extras := ["2_0", "50.9%", "warm"]

/-- The second of each kind is left over; what is not finite is a mode like any other word. -/
theorem parse_keeps_parameters_brightHall :
    parse ⟨16, 30⟩ "Hall lights ON 21 50.9% 2_0 nan 50.9% warm" "" = .ok brightHall ∧
      ∃ before power parameters, normalWords "Hall lights ON 21 50.9% 2_0 nan 50.9% warm"
          = before ++ power :: parameters ∧ (power, true) ∈ powerWords ∧
        brightHall.extras = (others .light parameters).map (·.1) ∧
        parameters.zipIdx.Perm ((levelAt .light parameters).toList
          ++ (heatAt .light parameters).toList ++ (styleAt .light parameters).toList
          ++ others .light parameters) := by
  have read : parse ⟨16, 30⟩ "Hall lights ON 21 50.9% 2_0 nan 50.9% warm" "" = .ok brightHall := by
    decide +kernel
  obtain ⟨before, power, parameters, words, switch, -, -, -, -, extras, places, -⟩ :=
    parse_keeps_parameters read
  exact ⟨read, before, power, parameters, words, switch, extras, places⟩

end ActionSpec

end HomeAutomation
