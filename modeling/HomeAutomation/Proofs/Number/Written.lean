/-
  HomeAutomation.Proofs.Number.Written

  Numerals that are written.  A numeral has figures: digits, digits after a point
  and an exponent, as far as they are there.  Its figures write a decimal, and with
  or without a sign the numeral is read as the double nearest to that decimal.
  Integers are written with digits alone.
-/

import Mathlib.Data.List.TakeWhile
import HomeAutomation.Number.Layout
import HomeAutomation.Number.Numeral
import HomeAutomation.Proofs.Number.Nearest
import HomeAutomation.Proofs.Number.Numeral

namespace HomeAutomation

namespace Number

open Text

-- ============================================================================
-- Digits
-- ============================================================================

theorem digitsValue_eq (digits : List Char) :
    digitsValue digits = Nat.ofDigitChars 10 digits 0 := rfl

theorem digitsValue_toDigits (n : Nat) : digitsValue (Nat.toDigits 10 n) = n :=
  Nat.ofDigitChars_ten_toDigits

theorem digitsValue_append (digits more : List Char) :
    digitsValue (digits ++ more) = digitsValue digits * 10 ^ more.length + digitsValue more := by
  rw [digitsValue_eq, Nat.ofDigitChars_append, Nat.ofDigitChars_eq_ofDigitChars_zero,
    Nat.mul_comm, ← digitsValue_eq, ← digitsValue_eq]

theorem digitsValue_zeros (n : Nat) : digitsValue (List.replicate n '0') = 0 := by
  rw [digitsValue_eq, Nat.ofDigitChars_replicate_zero, Nat.mul_zero]

theorem isDigit_zeros (n : Nat) : ∀ c ∈ List.replicate n '0', isDigit c = true := by
  intro c hc
  rw [List.eq_of_mem_replicate hc]
  rfl

theorem isDigit_toDigits (n : Nat) : ∀ c ∈ Nat.toDigits 10 n, isDigit c = true := by
  intro c hc
  have digit := Nat.isDigit_of_mem_toDigits (by decide) (by decide) hc
  simpa [isDigit, Char.isDigit, Char.le_def] using digit

/-- The digits of a number start with a zero only if there is no other. -/
theorem toDigits_ne_zero_cons {n : Nat} (filled : n ≠ 0) (rest : List Char) :
    Nat.toDigits 10 n ≠ '0' :: rest := by
  induction n using Nat.strong_induction_on generalizing rest with
  | _ n ih =>
    intro zero
    rw [Nat.toDigits_eq_if (by decide)] at zero
    split at zero
    · exact filled (Nat.digitChar_eq_zero.1 (List.cons.inj zero).1)
    · rename_i long
      obtain ⟨first, more, digits⟩ :=
        List.exists_cons_of_ne_nil (Nat.toDigits_ne_nil (n := n / 10) (b := 10))
      rw [digits] at zero
      obtain ⟨rfl, -⟩ := List.cons.inj zero
      exact ih (n / 10) (by omega) (by omega) more digits

-- ============================================================================
-- Numerals
-- ============================================================================

/-- Whether a text does not go on with a digit. -/
def EndsDigits (rest : List Char) : Prop := ∀ c more, rest = c :: more → isDigit c = false

theorem endsDigits_nil : EndsDigits [] := fun _ _ h => nomatch h

theorem endsDigits_cons {c : Char} (h : isDigit c = false) (rest : List Char) :
    EndsDigits (c :: rest) := by
  rintro c' more same
  obtain ⟨rfl, -⟩ := List.cons.inj same
  exact h

section Digits

variable {digits rest : List Char}

theorem takeWhile_digits (h : ∀ c ∈ digits, isDigit c = true) (ends : EndsDigits rest) :
    (digits ++ rest).takeWhile isDigit = digits := by
  rw [List.takeWhile_append_of_pos h]
  cases rest with
  | nil => simp
  | cons c more => rw [List.takeWhile_cons_of_neg (by simp [ends c more rfl]), List.append_nil]

theorem dropWhile_digits (h : ∀ c ∈ digits, isDigit c = true) (ends : EndsDigits rest) :
    (digits ++ rest).dropWhile isDigit = rest := by
  rw [List.dropWhile_append_of_pos h]
  cases rest with
  | nil => rfl
  | cons c more => exact List.dropWhile_cons_of_neg (by simp [ends c more rfl])

end Digits

/-- The figures of a numeral without sign. -/
structure Figures where
  whole : List Char
  fraction : List Char := []
  exponent : Option Int := none

namespace Figures

/-- The point and the digits after it, if there are any. -/
def fractionText (f : Figures) : List Char := if f.fraction = [] then [] else '.' :: f.fraction

/-- The exponent, if there is one. -/
def exponentText (f : Figures) : List Char := (f.exponent.map Layout.exponentText).getD []

/-- The numeral. -/
def text (f : Figures) : List Char := f.whole ++ (f.fractionText ++ f.exponentText)

/-- The decimal that the figures write. -/
def decimal (f : Figures) : Decimal :=
  ⟨digitsValue (f.whole ++ f.fraction), f.exponent.getD 0 - f.fraction.length⟩

/-- There are digits, and nothing but digits where digits belong. -/
structure Valid (f : Figures) : Prop where
  filled : f.whole ≠ []
  digits : ∀ c ∈ f.whole ++ f.fraction, isDigit c = true

/-- A zero stands in front of other digits only as the place of ones. -/
def Unpadded (f : Figures) : Prop := ∀ rest, f.whole = '0' :: rest → rest = []

variable {f : Figures}

theorem Valid.whole (valid : f.Valid) : ∀ c ∈ f.whole, isDigit c = true := fun c hc =>
  valid.digits c (List.mem_append_left _ hc)

theorem Valid.fraction (valid : f.Valid) : ∀ c ∈ f.fraction, isDigit c = true := fun c hc =>
  valid.digits c (List.mem_append_right _ hc)

/-- The characters of numerals that are written. -/
def chars : List Char := ['0', '1', '2', '3', '4', '5', '6', '7', '8', '9', '.', 'e', '+', '-']

theorem mem_chars_of_isDigit {c : Char} (h : isDigit c = true) : c ∈ chars := by
  obtain ⟨low, high⟩ : 48 ≤ c.toNat ∧ c.toNat ≤ 57 := by
    simpa [isDigit, Char.le_def, UInt32.le_iff_toNat_le] using h
  have all : ∀ n < 10, Char.ofNat (48 + n) ∈ chars := by decide
  have mem := all (c.toNat - 48) (by omega)
  rwa [Nat.add_sub_cancel' low, Char.ofNat_toNat] at mem

/-- The exponent of a layout: a sign and at least two digits. -/
theorem exponentText_eq (order : Int) :
    ∃ digits, Layout.exponentText order = 'e' :: (if order < 0 then '-' else '+') :: digits ∧
      digits ≠ [] ∧ (∀ c ∈ digits, isDigit c = true) ∧ digitsValue digits = order.natAbs := by
  unfold Layout.exponentText
  refine ⟨_, rfl, ?_, ?_, ?_⟩
  · split
    · exact List.cons_ne_nil _ _
    · exact Nat.toDigits_ne_nil
  · split
    · exact List.forall_mem_cons.2 ⟨rfl, isDigit_toDigits _⟩
    · exact isDigit_toDigits _
  · split
    · exact (digitsValue_append ['0'] (Nat.toDigits 10 order.natAbs)).trans (by
        rw [digitsValue_toDigits, show digitsValue ['0'] = 0 from rfl, Nat.zero_mul, Nat.zero_add])
    · exact digitsValue_toDigits _

theorem mem_chars_of_mem_text (valid : f.Valid) {c : Char} (h : c ∈ f.text) : c ∈ chars := by
  rw [text, List.mem_append, List.mem_append] at h
  rcases h with h | h | h
  · exact mem_chars_of_isDigit (valid.whole c h)
  · unfold fractionText at h
    split at h
    · cases h
    · rcases List.mem_cons.1 h with rfl | h
      · simp [chars]
      · exact mem_chars_of_isDigit (valid.fraction c h)
  · unfold exponentText at h
    cases exponent : f.exponent with
    | none =>
      rw [exponent] at h
      cases h
    | some order =>
      rw [exponent] at h
      obtain ⟨digits, written, -, isDigits, -⟩ := exponentText_eq order
      rw [Option.map_some, Option.getD_some, written, List.mem_cons, List.mem_cons] at h
      rcases h with rfl | rfl | h
      · simp [chars]
      · split <;> simp [chars]
      · exact mem_chars_of_isDigit (isDigits c h)

theorem endsDigits_exponentText {rest : List Char} (ends : EndsDigits rest) :
    EndsDigits (f.exponentText ++ rest) := by
  unfold exponentText
  cases f.exponent with
  | none => exact ends
  | some order =>
    obtain ⟨digits, written, -⟩ := exponentText_eq order
    rw [Option.map_some, Option.getD_some, written]
    exact endsDigits_cons rfl _

theorem endsDigits_fractionText {rest : List Char} (ends : EndsDigits rest) :
    EndsDigits (f.fractionText ++ rest) := by
  unfold fractionText
  split
  · exact ends
  · exact endsDigits_cons rfl _

theorem readExponent?_exponentText (f : Figures) :
    readExponent? f.exponentText = some (f.exponent.getD 0) := by
  unfold exponentText
  cases f.exponent with
  | none => rfl
  | some order =>
    obtain ⟨digits, written, filled, isDigits, value⟩ := exponentText_eq order
    have all : digits.all isDigit = true := List.all_eq_true.2 isDigits
    rw [Option.map_some, Option.getD_some, written]
    unfold readExponent?
    by_cases negative : order < 0
    · simp [negative, splitSign, filled, all, value, -Nat.cast_natAbs]
      omega
    · simp [negative, splitSign, filled, all, value, -Nat.cast_natAbs]
      omega

/-- Figures are read as the decimal that they write. -/
theorem readDecimal?_text (valid : f.Valid) : readDecimal? f.text = some f.decimal := by
  have after : EndsDigits (f.fractionText ++ f.exponentText) := by
    have := f.endsDigits_fractionText (f.endsDigits_exponentText endsDigits_nil)
    rwa [List.append_nil] at this
  have ends : EndsDigits f.exponentText := by
    have := f.endsDigits_exponentText endsDigits_nil
    rwa [List.append_nil] at this
  unfold readDecimal? text
  simp only [takeWhile_digits valid.whole after, dropWhile_digits valid.whole after]
  by_cases none : f.fraction = []
  · have written : f.fractionText = [] := if_pos none
    have exponent := f.readExponent?_exponentText
    rw [written, List.nil_append]
    unfold exponentText at exponent ⊢
    cases given : f.exponent with
    | none => simp [valid.filled, decimal, none, given, readExponent?]
    | some order =>
      obtain ⟨digits, layout, -⟩ := exponentText_eq order
      rw [given, Option.map_some, Option.getD_some, layout] at exponent
      simp [valid.filled, decimal, none, given, layout, exponent]
  · have written : f.fractionText = '.' :: f.fraction := if_neg none
    rw [written, List.cons_append]
    simp [takeWhile_digits valid.fraction ends, dropWhile_digits valid.fraction ends, none,
      f.readExponent?_exponentText, decimal]

end Figures

-- ============================================================================
-- Signs
-- ============================================================================

/-- The characters of written numerals are no blanks, stand for themselves and are none that may be
    skipped. -/
theorem plain_of_mem_chars : ∀ c ∈ Figures.chars, isBlank c = false ∧ asciiDigits [c] = [c] ∧
    c ≠ '_' :=
  forall_mem_of_all (by decide)

theorem dropUnderscores?_eq_self {cs : List Char} (h : '_' ∉ cs) (afterDigit : Bool) :
    dropUnderscores? afterDigit cs = some cs := by
  induction cs generalizing afterDigit with
  | nil => rfl
  | cons c rest ih =>
    rw [List.mem_cons, not_or] at h
    rw [dropUnderscores?, ih h.2]
    · rfl
    · exact fun same => h.1 same.symm

theorem asciiDigits_eq_self {cs : List Char} (h : ∀ c ∈ cs, asciiDigits [c] = [c]) :
    asciiDigits cs = cs := by
  induction cs with
  | nil => rfl
  | cons c rest ih =>
    change asciiDigits [c] ++ asciiDigits rest = [c] ++ rest
    rw [h c List.mem_cons_self, ih fun c hc => h c (List.mem_cons_of_mem _ hc)]

/-- The characters of a numeral stand as they are. -/
theorem numeralChars?_ofList {cs : List Char} (filled : cs ≠ []) (h : ∀ c ∈ cs, c ∈ Figures.chars) :
    numeralChars? (String.ofList cs) = some cs := by
  have isWord : IsWord cs := ⟨filled, fun c hc => (plain_of_mem_chars c (h c hc)).1⟩
  unfold numeralChars?
  rw [String.toList_ofList, trimBy_of_isWord isWord,
    asciiDigits_eq_self fun c hc => (plain_of_mem_chars c (h c hc)).2.1]
  exact dropUnderscores?_eq_self (fun mem => (plain_of_mem_chars _ (h _ mem)).2.2 rfl) _

namespace Figures

variable {f : Figures}

theorem Valid.exists_text_eq (valid : f.Valid) :
    ∃ c rest, f.text = c :: rest ∧ isDigit c = true := by
  obtain ⟨c, rest, whole⟩ := List.exists_cons_of_ne_nil valid.filled
  exact ⟨c, rest ++ (f.fractionText ++ f.exponentText), by rw [text, whole, List.cons_append],
    valid.whole c (whole ▸ List.mem_cons_self)⟩

theorem mem_chars_of_mem_signed (valid : f.Valid) {negative : Bool} {c : Char}
    (h : c ∈ (Double.signed negative f.text).toList) : c ∈ chars := by
  rw [Double.signed, String.toList_ofList] at h
  split at h
  · rcases List.mem_cons.1 h with rfl | h
    · simp [chars]
    · exact mem_chars_of_mem_text valid h
  · exact mem_chars_of_mem_text valid h

/-- Figures with or without a sign are one word. -/
theorem isWord_signed (valid : f.Valid) (negative : Bool) :
    IsWord (Double.signed negative f.text).toList := by
  refine ⟨?_, fun c hc => (plain_of_mem_chars c (mem_chars_of_mem_signed valid hc)).1⟩
  obtain ⟨c, rest, written, -⟩ := valid.exists_text_eq
  rw [Double.signed, String.toList_ofList, written]
  split <;> exact List.cons_ne_nil _ _

/-- A digit is none of the letters with which the number words start. -/
theorem readMagnitude?_text (valid : f.Valid) (negative : Bool) :
    readMagnitude? negative f.text = some (f.decimal.toDouble negative) := by
  obtain ⟨c, rest, written, digit⟩ := valid.exists_text_eq
  have worded (letter : Char) {more : List Char} (other : isDigit letter = false) :
      f.text.map Char.toLower ≠ letter :: more := by
    rw [written, List.map_cons, toLower_of_isDigit digit]
    intro same
    rw [(List.cons.inj same).1, other] at digit
    cases digit
  unfold readMagnitude?
  simp [worded 'i' rfl, worded 'n' rfl, readDecimal?_text valid]

/-- Figures with or without a sign are read as the double nearest to the decimal. -/
theorem readDouble?_signed (valid : f.Valid) (negative : Bool) :
    readDouble? (Double.signed negative f.text) = some (f.decimal.toDouble negative) := by
  have chars := numeralChars?_ofList (isWord_signed valid negative).filled fun c hc =>
    mem_chars_of_mem_signed valid hc
  rw [String.ofList_toList, Double.signed, String.toList_ofList, ← Double.signed] at chars
  obtain ⟨c, rest, written, digit⟩ := valid.exists_text_eq
  have sign : splitSign (if negative then '-' :: f.text else f.text) = (negative, f.text) := by
    cases negative with
    | true => rfl
    | false =>
      have minus : c ≠ '-' := fun same => by simp [same, isDigit] at digit
      have plus : c ≠ '+' := fun same => by simp [same, isDigit] at digit
      rw [if_neg (by decide), written,
        splitSign.eq_3 (c :: rest) (by simp [minus]) (by simp [plus])]
  unfold readDouble?
  simp only [chars, sign, Option.bind_some, Option.bind_eq_bind, readMagnitude?_text valid]

end Figures

-- ============================================================================
-- Integers
-- ============================================================================

/-- An integer is written by its digits. -/
theorem toString_eq_signed (n : Int) :
    toString n = Double.signed (n < 0) (Figures.text ⟨Nat.toDigits 10 n.natAbs, [], none⟩) := by
  have digits : Figures.text ⟨Nat.toDigits 10 n.natAbs, [], none⟩ = Nat.toDigits 10 n.natAbs := by
    simp [Figures.text, Figures.fractionText, Figures.exponentText]
  rw [digits, Int.toString_eq_repr, Int.repr_eq_if, Nat.repr_eq_ofList_toDigits,
    Nat.repr_eq_ofList_toDigits, Double.signed]
  by_cases negative : n < 0
  · have abs : (-n).toNat = n.natAbs := by omega
    rw [if_neg (by omega), if_pos (by simpa using negative), abs]
    exact String.toList_injective (by simp)
  · have abs : n.toNat = n.natAbs := by omega
    rw [if_pos (by omega), if_neg (by simpa using negative), abs]

theorem valid_toDigits (n : Nat) : Figures.Valid ⟨Nat.toDigits 10 n, [], none⟩ :=
  ⟨Nat.toDigits_ne_nil, by simpa using isDigit_toDigits n⟩

end Number

end HomeAutomation
