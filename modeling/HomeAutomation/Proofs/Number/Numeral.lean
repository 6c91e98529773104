/-
  HomeAutomation.Proofs.Number.Numeral

  The characters of numerals.  A word that denotes a number has none but decimal
  digits of any script, ASCII letters, points, signs and underscores; in
  particular no percent sign and no sign of a comparison.  Lower-casing such a word
  is lower-casing its ASCII letters, and that does not change what it denotes.
-/

import Mathlib.Data.List.TakeWhile
import HomeAutomation.Number.Numeral
import HomeAutomation.Proofs.Text.Normal

namespace HomeAutomation.Number

open Text

-- ============================================================================
-- Characters
-- ============================================================================

/-- The characters of numerals whose digits are ASCII digits. -/
def isPlain (c : Char) : Bool :=
  isDigit c || c.isAlpha || c = '.' || c = '+' || c = '-' || c = '_'

/-- The characters of numerals. -/
def isNumeralChar (c : Char) : Bool := (digitValue? c).isSome || isPlain c

theorem isPlain_of_isDigit {c : Char} (h : isDigit c = true) : isPlain c = true := by
  simp [isPlain, h]

theorem mem_splitSign {cs : List Char} {c : Char} (h : c ∈ cs) :
    isPlain c = true ∨ c ∈ (splitSign cs).2 := by
  unfold splitSign
  split
  · rcases List.mem_cons.1 h with rfl | h
    · exact .inl rfl
    · exact .inr h
  · rcases List.mem_cons.1 h with rfl | h
    · exact .inl rfl
    · exact .inr h
  · exact .inr h

theorem mem_dropWhile {p : Char → Bool} {cs : List Char} {c : Char} (h : c ∈ cs) :
    p c = true ∨ c ∈ cs.dropWhile p := by
  rw [← List.takeWhile_append_dropWhile (p := p) (l := cs)] at h
  exact (List.mem_append.1 h).imp_left List.mem_takeWhile_imp

theorem mem_trimBy {drop : Char → Bool} {cs : List Char} {c : Char} (h : c ∈ cs) :
    drop c = true ∨ c ∈ trimBy drop cs := by
  unfold trimBy
  rcases mem_dropWhile h with dropped | h
  · exact .inl dropped
  · exact (mem_dropWhile (List.mem_reverse.2 h)).imp_right List.mem_reverse.2

theorem mem_dropUnderscores? {afterDigit : Bool} {cs out : List Char}
    (h : dropUnderscores? afterDigit cs = some out) {c : Char} (hc : c ∈ cs) :
    c = '_' ∨ c ∈ out := by
  fun_induction dropUnderscores? afterDigit cs generalizing out with
  | case1 => cases hc
  | case2 => cases h
  | case3 afterDigit d rest _ ih =>
    rcases List.mem_cons.1 hc with rfl | hc
    · exact .inl rfl
    · exact ih h hc
  | case4 => cases h
  | case5 afterDigit first rest _ ih =>
    obtain ⟨more, dropped, rfl⟩ := Option.map_eq_some_iff.1 h
    rcases List.mem_cons.1 hc with rfl | hc
    · exact .inr List.mem_cons_self
    · exact (ih dropped hc).imp_right (List.mem_cons_of_mem _)

theorem isPlain_of_readExponent? {cs : List Char} {exponent : Int}
    (h : readExponent? cs = some exponent) {c : Char} (hc : c ∈ cs) : isPlain c = true := by
  cases cs with
  | nil => cases hc
  | cons first rest =>
    unfold readExponent? at h
    dsimp only at h
    split at h
    · rename_i letter
      rcases List.mem_cons.1 hc with rfl | hc
      · rw [Bool.or_eq_true, decide_eq_true_iff, decide_eq_true_iff] at letter
        rcases letter with rfl | rfl <;> rfl
      · split at h
        · cases h
        · rename_i digits
          rw [Bool.or_eq_true, not_or, Bool.not_eq_true', Bool.not_eq_false] at digits
          rcases mem_splitSign hc with plain | hc
          · exact plain
          · exact isPlain_of_isDigit (List.all_eq_true.1 digits.2 c hc)
    · cases h

theorem isPlain_of_readDecimal? {cs : List Char} {d : Decimal} (h : readDecimal? cs = some d)
    {c : Char} (hc : c ∈ cs) : isPlain c = true := by
  have exponent {tail : List Char} {whole : Bool} {f : Int → Decimal}
      (h : (if whole then none else (readExponent? tail).map f) = some d) (hc : c ∈ tail) :
      isPlain c = true := by
    split at h
    · cases h
    · obtain ⟨exponent, read, -⟩ := Option.map_eq_some_iff.1 h
      exact isPlain_of_readExponent? read hc
  unfold readDecimal? at h
  dsimp only at h
  rcases mem_dropWhile (p := isDigit) hc with digit | hc
  · exact isPlain_of_isDigit digit
  · split at h
    · rename_i rest point
      rw [point] at hc
      rcases List.mem_cons.1 hc with rfl | hc
      · rfl
      · rcases mem_dropWhile (p := isDigit) hc with digit | hc
        · exact isPlain_of_isDigit digit
        · exact exponent h hc
    · exact exponent h hc

/-- What a character and its form in lower case have in common, as far as numerals go. -/
structure Kin (c lowered : Char) : Prop where
  alpha : lowered.isAlpha = c.isAlpha
  digit : isDigit lowered = isDigit c
  value : digitValue? lowered = digitValue? c
  blank : isBlank lowered = isBlank c
  exponent : lowered = 'e' ∨ lowered = 'E' ↔ c = 'e' ∨ c = 'E'
  again : lowered.toLower = lowered
  fixed : (isDigit c || (digitValue? c).isSome || !c.isAlpha) = true → lowered = c

instance (c lowered : Char) : Decidable (Kin c lowered) :=
  decidable_of_iff (lowered.isAlpha = c.isAlpha ∧ isDigit lowered = isDigit c ∧
      digitValue? lowered = digitValue? c ∧ isBlank lowered = isBlank c ∧
      (lowered = 'e' ∨ lowered = 'E' ↔ c = 'e' ∨ c = 'E') ∧ lowered.toLower = lowered ∧
      ((isDigit c || (digitValue? c).isSome || !c.isAlpha) = true → lowered = c))
    ⟨fun ⟨alpha, digit, value, blank, exponent, again, fixed⟩ =>
      ⟨alpha, digit, value, blank, exponent, again, fixed⟩,
    fun ⟨alpha, digit, value, blank, exponent, again, fixed⟩ =>
      ⟨alpha, digit, value, blank, exponent, again, fixed⟩⟩

/-- Only the ASCII capitals are changed, and these can be gone through one by one. -/
theorem kin_toLower (c : Char) : Kin c c.toLower := by
  have capitals : ∀ n < 26, Kin (Char.ofNat (0x41 + n)) (Char.ofNat (0x41 + n)).toLower := by
    decide +kernel
  by_cases upper : c.isUpper = true
  · obtain ⟨first, last⟩ : 0x41 ≤ c.toNat ∧ c.toNat ≤ 0x5A := of_decide_eq_true upper
    have kin := capitals (c.toNat - 0x41) (by omega)
    rwa [Nat.add_sub_cancel' (by omega), Char.ofNat_toNat] at kin
  · have unchanged : c.toLower = c := by
      unfold Char.toLower
      exact dif_neg fun bounds => upper (decide_eq_true bounds)
    rw [unchanged]
    exact ⟨rfl, rfl, rfl, rfl, Iff.rfl, unchanged, fun _ => rfl⟩

theorem isPlain_of_readMagnitude? {negative : Bool} {cs : List Char} {value : Double}
    (h : readMagnitude? negative cs = some value) {c : Char} (hc : c ∈ cs) : isPlain c = true := by
  have named {name : List Char} (letters : name.all Char.isAlpha = true)
      (same : cs.map Char.toLower = name) : isPlain c = true := by
    have among : c.toLower ∈ name := same ▸ List.mem_map_of_mem hc
    have alpha := List.all_eq_true.1 letters _ among
    rw [(kin_toLower c).alpha] at alpha
    simp [isPlain, alpha]
  unfold readMagnitude? at h
  dsimp only at h
  split at h
  · rename_i infinite
    rw [Bool.or_eq_true, decide_eq_true_iff, decide_eq_true_iff] at infinite
    exact infinite.elim (named rfl) (named rfl)
  · split at h
    · exact named rfl ‹_›
    · obtain ⟨d, read, -⟩ := Option.map_eq_some_iff.1 h
      exact isPlain_of_readDecimal? read hc

/-- What denotes a number has characters of numerals only, apart from its margins. -/
theorem isNumeralChar_of_readDouble? {text : String} {value : Double}
    (h : readDouble? text = some value) {c : Char} (hc : c ∈ text.toList) :
    isMargin c = true ∨ isNumeralChar c = true := by
  unfold readDouble? numeralChars? at h
  obtain ⟨cs, chars, h⟩ := Option.bind_eq_some_iff.1 h
  refine (mem_trimBy hc).imp_right fun hc => ?_
  cases digit : digitValue? c with
  | some value => simp [isNumeralChar, digit]
  | none =>
    have kept : c ∈ asciiDigits (trimBy isMargin text.toList) :=
      List.mem_map.2 ⟨c, hc, by simp [digit]⟩
    have plain : isPlain c = true := by
      rcases mem_dropUnderscores? chars kept with rfl | hc
      · rfl
      · rcases mem_splitSign hc with plain | hc
        · exact plain
        · exact isPlain_of_readMagnitude? h hc
    simp [isNumeralChar, plain]

-- ============================================================================
-- Lower case
-- ============================================================================

theorem isDigit_toLower (c : Char) : isDigit c.toLower = isDigit c := (kin_toLower c).digit

theorem digitValue?_toLower (c : Char) : digitValue? c.toLower = digitValue? c :=
  (kin_toLower c).value

theorem isBlank_toLower (c : Char) : isBlank c.toLower = isBlank c := (kin_toLower c).blank

/-- Letters stay letters, so that what is none is got from itself only. -/
theorem toLower_eq_iff {mark : Char} (h : mark.isAlpha = false) {c : Char} :
    c.toLower = mark ↔ c = mark := by
  constructor
  · rintro rfl
    rw [(kin_toLower c).alpha] at h
    exact ((kin_toLower c).fixed (by simp [h])).symm
  · rintro rfl
    exact (kin_toLower c).fixed (by simp [h])

theorem toLower_of_digitValue? {c : Char} {value : Nat} (h : digitValue? c = some value) :
    c.toLower = c := (kin_toLower c).fixed (by simp [h])

theorem toLower_of_isDigit {c : Char} (h : isDigit c = true) : c.toLower = c :=
  (kin_toLower c).fixed (by simp [h])

/-- The characters of numerals written with ASCII digits are ASCII characters. -/
theorem isAscii_of_isPlain {c : Char} (h : isPlain c = true) : c.toNat < 0x80 := by
  simp only [isPlain, isDigit, Bool.or_eq_true, Bool.and_eq_true, decide_eq_true_iff] at h
  obtain ((((digit | alpha) | rfl) | rfl) | rfl) | rfl := h
  · have last : c.toNat ≤ 0x39 := digit.2
    omega
  · obtain upper | lower := Bool.or_eq_true_iff.1 alpha
    · have last : c.toNat ≤ 0x5A := (of_decide_eq_true upper).2
      omega
    · have last : c.toNat ≤ 0x7A := of_decide_eq_true (Bool.and_eq_true_iff.1 lower).2
      omega
  all_goals decide

/-- Digits are no letters. -/
theorem isSettled_of_digitValue? {c : Char} {value : Nat} (h : digitValue? c = some value) :
    IsSettled c := by
  have apart : (digitZeros.all fun first => (CaseRun.dottedI :: caseRuns).all fun run =>
      (first + 9).blt run.first || run.last.blt first) = true := by decide +kernel
  obtain ⟨first, found, -⟩ := Option.map_eq_some_iff.1 h
  have within := List.find?_some found
  have known := List.mem_of_find?_eq_some found
  intro run hr
  have misses := List.all_eq_true.1 (List.all_eq_true.1 apart first known) run hr
  rw [Bool.or_eq_true, Nat.blt_eq, Nat.blt_eq] at misses
  rw [Bool.eq_false_iff, Ne, CaseRun.covers_iff]
  simp only [Bool.and_eq_true, decide_eq_true_iff] at within
  omega

theorem map_toLower_of_isDigit {cs : List Char} (h : ∀ c ∈ cs, isDigit c = true) :
    cs.map Char.toLower = cs :=
  (List.map_congr_left fun c hc => toLower_of_isDigit (h c hc)).trans cs.map_id'

theorem takeWhile_isDigit_map_toLower (cs : List Char) :
    (cs.map Char.toLower).takeWhile isDigit = cs.takeWhile isDigit := by
  rw [List.takeWhile_map, show isDigit ∘ Char.toLower = isDigit from funext isDigit_toLower]
  exact map_toLower_of_isDigit fun c hc => List.mem_takeWhile_imp hc

theorem dropWhile_isDigit_map_toLower (cs : List Char) :
    (cs.map Char.toLower).dropWhile isDigit = (cs.dropWhile isDigit).map Char.toLower := by
  rw [List.dropWhile_map, show isDigit ∘ Char.toLower = isDigit from funext isDigit_toLower]

theorem splitSign_map_toLower (cs : List Char) :
    splitSign (cs.map Char.toLower) = ((splitSign cs).1, (splitSign cs).2.map Char.toLower) := by
  cases cs with
  | nil => rfl
  | cons c rest =>
    by_cases minus : c = '-'
    · subst minus
      rfl
    · by_cases plus : c = '+'
      · subst plus
        rfl
      · have minus' : c.toLower ≠ '-' := mt (toLower_eq_iff (by decide)).1 minus
        have plus' : c.toLower ≠ '+' := mt (toLower_eq_iff (by decide)).1 plus
        rw [List.map_cons, splitSign.eq_3 (c :: rest) (by simp [minus]) (by simp [plus]),
          splitSign.eq_3 (c.toLower :: _) (by simp [minus']) (by simp [plus'])]
        rfl

theorem dropUnderscores?_map_toLower (afterDigit : Bool) (cs : List Char) :
    dropUnderscores? afterDigit (cs.map Char.toLower)
      = (dropUnderscores? afterDigit cs).map (·.map Char.toLower) := by
  fun_induction dropUnderscores? afterDigit cs with
  | case1 => rfl
  | case2 => rfl
  | case3 afterDigit d rest follows ih =>
    rw [← ih, List.map_cons, List.map_cons, show '_'.toLower = '_' from rfl, dropUnderscores?,
      isDigit_toLower, if_pos follows]
  | case4 afterDigit d rest follows =>
    rw [List.map_cons, List.map_cons, show '_'.toLower = '_' from rfl, dropUnderscores?,
      isDigit_toLower, if_neg follows]
    rfl
  | case5 afterDigit c rest other ih =>
    have other' : c.toLower = '_' → False := fun h => other ((toLower_eq_iff (by decide)).1 h)
    rw [List.map_cons, dropUnderscores?.eq_4 _ _ _ other', isDigit_toLower, ih, Option.map_map,
      Option.map_map]
    rfl

theorem readExponent?_map_toLower (cs : List Char) :
    readExponent? (cs.map Char.toLower) = readExponent? cs := by
  cases cs with
  | nil => rfl
  | cons c rest =>
    have letter : (c.toLower = 'e' || c.toLower = 'E') = (c = 'e' || c = 'E') := by
      rw [Bool.eq_iff_iff]
      simpa only [Bool.or_eq_true, decide_eq_true_iff] using (kin_toLower c).exponent
    unfold readExponent?
    rw [List.map_cons]
    dsimp only
    rw [letter, splitSign_map_toLower]
    dsimp only
    by_cases digits : (splitSign rest).2.all isDigit = true
    · rw [map_toLower_of_isDigit (List.all_eq_true.1 digits)]
    · have digits' : ((splitSign rest).2.map Char.toLower).all isDigit = false := by
        rw [List.all_map, show isDigit ∘ Char.toLower = isDigit from funext isDigit_toLower]
        exact Bool.eq_false_iff.2 digits
      simp [digits', Bool.eq_false_iff.2 digits]

theorem readDecimal?_map_toLower (cs : List Char) :
    readDecimal? (cs.map Char.toLower) = readDecimal? cs := by
  unfold readDecimal?
  rw [takeWhile_isDigit_map_toLower, dropWhile_isDigit_map_toLower]
  dsimp only
  cases cs.dropWhile isDigit with
  | nil => rfl
  | cons c rest =>
    by_cases point : c = '.'
    · subst point
      simp only [List.map_cons, show '.'.toLower = '.' from rfl, takeWhile_isDigit_map_toLower,
        dropWhile_isDigit_map_toLower, readExponent?_map_toLower]
    · have point' : c.toLower ≠ '.' := mt (toLower_eq_iff (by decide)).1 point
      have exponent := readExponent?_map_toLower (c :: rest)
      rw [List.map_cons] at exponent
      simp [point, point', exponent]

theorem readMagnitude?_map_toLower (negative : Bool) (cs : List Char) :
    readMagnitude? negative (cs.map Char.toLower) = readMagnitude? negative cs := by
  unfold readMagnitude?
  have twice : (cs.map Char.toLower).map Char.toLower = cs.map Char.toLower := by
    rw [List.map_map]
    exact List.map_congr_left fun c _ => (kin_toLower c).again
  rw [twice, readDecimal?_map_toLower]

theorem toLower_digitChar {c : Char} {value : Nat} (h : digitValue? c = some value) :
    (digitChar value).toLower = digitChar value := by
  obtain ⟨first, found, rfl⟩ := Option.map_eq_some_iff.1 h
  have within := List.find?_some found
  simp only [Bool.and_eq_true, decide_eq_true_iff] at within
  have ten : ∀ value < 10, (digitChar value).toLower = digitChar value := by decide
  exact ten _ (by omega)

theorem asciiDigits_map_toLower (cs : List Char) :
    asciiDigits (cs.map Char.toLower) = (asciiDigits cs).map Char.toLower := by
  unfold asciiDigits
  rw [List.map_map, List.map_map]
  refine List.map_congr_left fun c _ => ?_
  dsimp only [Function.comp_apply]
  rw [digitValue?_toLower]
  cases digit : digitValue? c with
  | some value => exact (toLower_digitChar digit).symm
  | none => rfl

/-- Of a character of numerals lower-casing makes what it makes of ASCII letters. -/
theorem lowerChar_of_isNumeralChar {c : Char} (h : isNumeralChar c = true) :
    lowerChar c = [c.toLower] ∧ c ≠ 'Σ' := by
  unfold isNumeralChar at h
  rcases Bool.or_eq_true_iff.1 h with digit | plain
  · obtain ⟨value, digit⟩ := Option.isSome_iff_exists.1 digit
    have settled := isSettled_of_digitValue? digit
    rw [settled.lowerChar_eq, toLower_of_digitValue? digit]
    exact ⟨rfl, settled.ne_sigma⟩
  · have ascii := isAscii_of_isPlain plain
    refine ⟨if_pos ascii, ?_⟩
    rintro rfl
    exact absurd ascii (by decide)

theorem lowerFrom_eq_map_toLower {cs : List Char} (h : ∀ c ∈ cs, isNumeralChar c = true)
    (afterCased : Bool) : lowerFrom afterCased cs = cs.map Char.toLower := by
  induction cs generalizing afterCased with
  | nil => rfl
  | cons c rest ih =>
    obtain ⟨lowered, other⟩ := lowerChar_of_isNumeralChar (h c List.mem_cons_self)
    unfold lowerFrom
    dsimp only
    rw [if_neg other, lowered, ih fun x hx => h x (List.mem_cons_of_mem _ hx)]
    rfl

-- ============================================================================
-- Words
-- ============================================================================

theorem isMargin_of_unblank {c : Char} (h : isBlank c = false) : isMargin c = false := by
  simp [isMargin, h]

theorem trimBy_of_isWord {word : List Char} (h : IsWord word) : trimBy isMargin word = word := by
  have keep {cs : List Char} (unblank : ∀ c ∈ cs, isBlank c = false) :
      cs.dropWhile isMargin = cs := by
    cases cs with
    | nil => rfl
    | cons c rest =>
      exact List.dropWhile_cons_of_neg
        (by simp [isMargin_of_unblank (unblank c List.mem_cons_self)])
  unfold trimBy
  rw [keep h.unblank, keep fun c hc => h.unblank c (List.mem_reverse.1 hc), List.reverse_reverse]

variable {word : String} {value : Double}

/-- A word that denotes a number has characters of numerals only. -/
theorem isNumeralChar_of_mem_word (isWord : IsWord word.toList)
    (h : readDouble? word = some value) : ∀ c ∈ word.toList, isNumeralChar c = true := by
  intro c hc
  refine (isNumeralChar_of_readDouble? h hc).resolve_left ?_
  simp [isMargin_of_unblank (isWord.unblank c hc)]

theorem toList_lower_numeral (isWord : IsWord word.toList) (h : readDouble? word = some value) :
    (lower word).toList = word.toList.map Char.toLower := by
  rw [lower, String.toList_ofList,
    lowerFrom_eq_map_toLower (isNumeralChar_of_mem_word isWord h)]

theorem isWord_lower_numeral (isWord : IsWord word.toList) (h : readDouble? word = some value) :
    IsWord (lower word).toList := by
  rw [toList_lower_numeral isWord h]
  refine ⟨by simpa using isWord.filled, fun c hc => ?_⟩
  obtain ⟨d, hd, rfl⟩ := List.mem_map.1 hc
  rw [isBlank_toLower]
  exact isWord.unblank d hd

/-- A numeral denotes in lower case what it denotes as it is written. -/
theorem readDouble?_lower (isWord : IsWord word.toList) (h : readDouble? word = some value) :
    readDouble? (lower word) = some value := by
  have same : readDouble? (lower word) = readDouble? word := by
    unfold readDouble? numeralChars?
    rw [trimBy_of_isWord (isWord_lower_numeral isWord h), trimBy_of_isWord isWord,
      toList_lower_numeral isWord h, asciiDigits_map_toLower, dropUnderscores?_map_toLower]
    cases dropUnderscores? false (asciiDigits word.toList) with
    | none => rfl
    | some cs =>
      change readMagnitude? (splitSign (cs.map Char.toLower)).1 (splitSign (cs.map Char.toLower)).2
        = readMagnitude? (splitSign cs).1 (splitSign cs).2
      rw [splitSign_map_toLower, readMagnitude?_map_toLower]
  rw [same, h]

end HomeAutomation.Number
