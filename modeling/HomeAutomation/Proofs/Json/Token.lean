/-
  HomeAutomation.Proofs.Json.Token

  The grammar of texts, numbers and names.  Each relation `Spells…` tells which
  characters stand for what; the reader takes these characters and no others.
  What follows a text does not matter to it; a number has to end where its
  characters end, for else more of them would belong to it (`EndsNumber`).
-/

import HomeAutomation.Json.Reader
import HomeAutomation.Proofs.Number.Layout

namespace HomeAutomation.Json

open Number

variable {rest : List Char}

-- ============================================================================
-- Texts
-- ============================================================================

/-- Whether a code unit and the escape at the start of what follows make one character. -/
def MakesPair (unit : Nat) (cs : List Char) : Prop :=
  Text.isHighUnit unit = true ∧ ∃ a b c d low more, cs = '\\' :: 'u' :: a :: b :: c :: d :: more ∧
    hexUnit? a b c d = some low ∧ Text.isLowUnit low = true

/-- What stands for the characters of a text, up to the closing quotation mark. -/
inductive SpellsText : List Char → List Char → Prop
  | close : SpellsText [] ['"']
  | plain {value used : List Char} {c : Char} (quote : c ≠ '"') (backslash : c ≠ '\\')
      (printable : 0x20 ≤ c.toNat) (later : SpellsText value used) :
      SpellsText (c :: value) (c :: used)
  | letter {value used : List Char} {letter c : Char} (stands : escapedChar? letter = some c)
      (later : SpellsText value used) : SpellsText (c :: value) ('\\' :: letter :: used)
  | unit {value used : List Char} {a b c d : Char} {unit : Nat} (hex : hexUnit? a b c d = some unit)
      (alone : ¬MakesPair unit used) (later : SpellsText value used) :
      SpellsText (Text.unitChar unit :: value) ('\\' :: 'u' :: a :: b :: c :: d :: used)
  | pair {value used : List Char} {a b c d e f g h : Char} {high low : Nat}
      (hexHigh : hexUnit? a b c d = some high) (isHigh : Text.isHighUnit high = true)
      (hexLow : hexUnit? e f g h = some low) (isLow : Text.isLowUnit low = true)
      (later : SpellsText value used) :
      SpellsText (Text.pairChar high low :: value)
        ('\\' :: 'u' :: a :: b :: c :: d :: '\\' :: 'u' :: e :: f :: g :: h :: used)

section Texts

variable {opening done value used cs : List Char}

theorem SpellsText.filled (h : SpellsText value used) : used ≠ [] := by
  cases h <;> exact List.cons_ne_nil _ _

/-- Characters that need no escape stand for themselves. -/
theorem SpellsText.of_plain (plain : ∀ c ∈ value, c ≠ '"' ∧ c ≠ '\\' ∧ 0x20 ≤ c.toNat) :
    SpellsText value (value ++ ['"']) := by
  induction value with
  | nil => exact .close
  | cons c value ih =>
    obtain ⟨quote, backslash, printable⟩ := plain c List.mem_cons_self
    exact .plain quote backslash printable (ih fun d hd => plain d (List.mem_cons_of_mem _ hd))

/-- An escape by number is not broken off: four digits belong to it, and something follows. -/
theorem SpellsText.exists_escape (h : SpellsText value used) {tail : List Char}
    (escape : used ++ rest = '\\' :: 'u' :: tail) :
    ∃ a b c d e more, used = '\\' :: 'u' :: a :: b :: c :: d :: e :: more ∧
      ∃ unit, hexUnit? a b c d = some unit := by
  cases h with
  | close => exact absurd (List.cons.inj escape).1 (by decide)
  | plain _ backslash => exact absurd (List.cons.inj escape).1 backslash
  | letter stands =>
    obtain ⟨rfl, -⟩ := List.cons.inj (List.cons.inj escape).2
    cases stands
  | unit hex _ later =>
    obtain ⟨e, more, rfl⟩ := List.exists_cons_of_ne_nil later.filled
    exact ⟨_, _, _, _, e, more, rfl, _, hex⟩
  | pair hex => exact ⟨_, _, _, _, _, _, rfl, _, hex⟩

/-- The escape of a unit that makes no pair is read on its own. -/
theorem readText_unit {a b c d : Char} {unit : Nat} (hex : hexUnit? a b c d = some unit)
    (alone : ¬MakesPair unit cs) (more : cs ≠ [])
    (whole : ∀ tail, cs = '\\' :: 'u' :: tail →
      ∃ a b c d more unit, tail = a :: b :: c :: d :: more ∧ hexUnit? a b c d = some unit) :
    readText opening done ('\\' :: 'u' :: a :: b :: c :: d :: cs)
      = readText opening (Text.unitChar unit :: done) cs := by
  by_cases long : ∃ e f g h i tail, cs = '\\' :: 'u' :: e :: f :: g :: h :: i :: tail
  · obtain ⟨e, f, g, h, i, tail, rfl⟩ := long
    obtain ⟨_, _, _, _, _, low, same, hexLow⟩ := whole _ rfl
    obtain ⟨rfl, rfl, rfl, rfl, -⟩ : e = _ ∧ f = _ ∧ g = _ ∧ h = _ ∧ i :: tail = _ := by
      simpa using same
    rw [readText.eq_4]
    simp only [hex, hexLow]
    by_cases isHigh : Text.isHighUnit unit = true
    · have single : ¬Text.isLowUnit low = true := fun isLow =>
        alone ⟨isHigh, _, _, _, _, low, _, rfl, hexLow, isLow⟩
      rw [if_pos isHigh, if_neg single]
    · rw [if_neg isHigh]
  · obtain ⟨e, tail, rfl⟩ := List.exists_cons_of_ne_nil more
    rw [readText.eq_5 _ _ _ _ _ _ _ _ fun e' f g h i tail' hb ht =>
      long ⟨e', f, g, h, i, tail', by rw [hb, ht]⟩, hex]

/-- A text is read as what its characters stand for, whatever follows. -/
theorem SpellsText.read (h : SpellsText value used) (opening done rest : List Char) :
    readText opening done (used ++ rest) = .ok (String.ofList (done.reverse ++ value), rest) := by
  induction h generalizing done with
  | close => simp [readText]
  | @plain value used c quote backslash printable later ih =>
    rw [List.cons_append, readText.eq_8 _ _ _ _ quote (fun h => absurd h backslash)
      (fun _ _ _ _ _ _ _ _ _ _ h => absurd h backslash)
      (fun _ _ _ _ _ _ h => absurd h backslash) (fun _ h => absurd h backslash)
      (fun _ _ h => absurd h backslash), if_neg (Nat.not_lt.2 printable), ih]
    simp
  | @letter value used letter c stands later ih =>
    have other : letter ≠ 'u' := by
      rintro rfl
      cases stands
    rw [List.cons_append, List.cons_append, readText.eq_7 _ _ _ _
      (fun _ _ _ _ _ _ _ _ _ _ h => absurd h other) (fun _ _ _ _ _ _ h => absurd h other) other,
      stands]
    simp [ih]
  | @unit value used a b c d unit hex alone later ih =>
    have alone' : ¬MakesPair unit (used ++ rest) := by
      rintro ⟨isHigh, _, _, _, _, low, _, escape, hexLow, isLow⟩
      obtain ⟨_, _, _, _, _, _, rfl, -⟩ := later.exists_escape escape
      simp only [List.cons_append, List.cons.injEq, true_and] at escape
      obtain ⟨rfl, rfl, rfl, rfl, -⟩ := escape
      exact alone ⟨isHigh, _, _, _, _, low, _, rfl, hexLow, isLow⟩
    simp only [List.cons_append]
    rw [readText_unit hex alone' (by simp [later.filled]), ih]
    · simp
    · intro tail escape
      obtain ⟨_, _, _, _, _, _, rfl, unit, hexUnit⟩ := later.exists_escape escape
      simp only [List.cons_append, List.cons.injEq, true_and] at escape
      exact ⟨_, _, _, _, _, unit, escape.symm, hexUnit⟩
  | pair hexHigh isHigh hexLow isLow later ih =>
    obtain ⟨i, more, rfl⟩ := List.exists_cons_of_ne_nil later.filled
    simp only [List.cons_append]
    rw [readText.eq_4]
    simp only [hexHigh, hexLow, isHigh, isLow, if_true]
    rw [← List.cons_append, ih]
    simp

/-- Nothing is read as a text but what spells it. -/
theorem spellsText_of_readText {text : String}
    (read : readText opening done cs = .ok (text, rest)) :
    ∃ value used, text = String.ofList (done.reverse ++ value) ∧ SpellsText value used ∧
      cs = used ++ rest := by
  -- each case adds what it has taken to the text that the rest spells
  have step (taken : List Char) {c : Char} {done tail : List Char}
      (later : ∃ value used, text = String.ofList ((c :: done).reverse ++ value) ∧
        SpellsText value used ∧ tail = used ++ rest)
      (spells : ∀ value used, tail = used ++ rest → SpellsText value used →
        SpellsText (c :: value) (taken ++ used)) :
      ∃ value used, text = String.ofList (done.reverse ++ value) ∧ SpellsText value used ∧
        taken ++ tail = used ++ rest := by
    obtain ⟨value, used, rfl, later, rfl⟩ := later
    exact ⟨c :: value, taken ++ used, by simp, spells value used rfl later, by simp⟩
  fun_induction readText opening done cs
  case case2 done tail =>
    obtain ⟨rfl, rfl⟩ := Prod.mk.inj (Except.ok.inj read)
    exact ⟨[], ['"'], by simp, .close, rfl⟩
  case case6 done a b c d e f g h i tail high hexHigh isHigh low hexLow isLow ih =>
    exact step ['\\', 'u', a, b, c, d, '\\', 'u', e, f, g, h] (ih read)
      fun value used _ later => .pair hexHigh isHigh hexLow isLow later
  case case7 done a b c d e f g h i tail high hexHigh isHigh low hexLow single ih =>
    refine step ['\\', 'u', a, b, c, d] (ih read) fun value used taken later =>
      .unit hexHigh ?_ later
    rintro ⟨-, _, _, _, _, low', _, rfl, hexLow', isLow⟩
    simp only [List.cons_append, List.cons.injEq, true_and] at taken
    obtain ⟨rfl, rfl, rfl, rfl, -⟩ := taken
    rw [hexLow] at hexLow'
    exact single (Option.some.inj hexLow' ▸ isLow)
  case case8 done a b c d e f g h i tail high hexHigh single ih =>
    exact step ['\\', 'u', a, b, c, d] (ih read) fun value used _ later =>
      .unit hexHigh (fun pair => single pair.1) later
  case case10 done a b c d e tail short unit hex ih =>
    refine step ['\\', 'u', a, b, c, d] (ih read) fun value used taken later =>
      .unit hex ?_ later
    rintro ⟨-, _, _, _, _, _, _, rfl, -⟩
    obtain ⟨_, _, _, _, _, _, same, -⟩ :=
      later.exists_escape (List.append_nil ('\\' :: 'u' :: _))
    rw [same] at taken
    obtain ⟨rfl, rfl⟩ := List.cons.inj taken
    exact short _ _ _ _ _ _ rfl rfl
  case case12 done letter tail _ _ _ c stands ih =>
    exact step ['\\', letter] (ih read) fun value used _ later => .letter stands later
  case case15 done c tail quote last _ _ _ escape printable ih =>
    refine step [c] (ih read) fun value used _ later =>
      .plain quote (fun backslash => ?_) (Nat.not_lt.1 printable) later
    cases tail with
    | nil => exact last backslash rfl
    | cons letter more => exact escape letter more backslash rfl
  all_goals cases read

/-- A character that something is told of is no control character, if it is told of none of
    these. -/
theorem le_of_eq_some {α : Type} {p : Char → Option α}
    (controls : ∀ n < 0x20, p (Char.ofNat n) = none) {c : Char} {x : α} (h : p c = some x) :
    0x20 ≤ c.toNat := by
  by_contra control
  have none := controls c.toNat (by omega)
  rw [Char.ofNat_toNat, h] at none
  cases none

theorem le_of_hexUnit? {a b c d : Char} {n : Nat} (h : hexUnit? a b c d = some n) :
    ∀ x ∈ [a, b, c, d], 0x20 ≤ x.toNat := by
  have controls : ∀ n < 0x20, hexValue? (Char.ofNat n) = none := by decide
  simp only [hexUnit?, Option.bind_eq_bind, Option.bind_eq_some_iff] at h
  obtain ⟨_, ha, _, hb, _, hc, _, hd, -⟩ := h
  simp [le_of_eq_some controls ha, le_of_eq_some controls hb, le_of_eq_some controls hc,
    le_of_eq_some controls hd]

/-- A text has no control characters. -/
theorem SpellsText.printable (h : SpellsText value used) : ∀ c ∈ used, 0x20 ≤ c.toNat := by
  have backslash : 0x20 ≤ '\\'.toNat := by decide
  have mark : 0x20 ≤ 'u'.toNat := by decide
  induction h with
  | close => exact List.forall_mem_singleton.2 (by decide)
  | plain _ _ printable _ ih => exact List.forall_mem_cons.2 ⟨printable, ih⟩
  | letter stands _ ih =>
    have letter := le_of_eq_some (by decide) stands
    exact List.forall_mem_cons.2 ⟨backslash, List.forall_mem_cons.2 ⟨letter, ih⟩⟩
  | unit hex _ _ ih =>
    have digits := le_of_hexUnit? hex
    simp only [List.forall_mem_cons] at digits ⊢
    exact ⟨backslash, mark, digits.1, digits.2.1, digits.2.2.1, digits.2.2.2.1, ih⟩
  | pair hexHigh _ hexLow _ _ ih =>
    have high := le_of_hexUnit? hexHigh
    have low := le_of_hexUnit? hexLow
    simp only [List.forall_mem_cons] at high low ⊢
    exact ⟨backslash, mark, high.1, high.2.1, high.2.2.1, high.2.2.2.1,
      backslash, mark, low.1, low.2.1, low.2.2.1, low.2.2.2.1, ih⟩

end Texts

-- ============================================================================
-- Numbers
-- ============================================================================

/-- Whether a text does not go on with a character of numerals. -/
def EndsNumber (rest : List Char) : Prop :=
  ∀ c more, rest = c :: more → c ∉ 'E' :: Figures.chars

theorem endsNumber_nil : EndsNumber [] := fun _ _ h => nomatch h

theorem endsNumber_cons {c : Char} (h : c ∉ 'E' :: Figures.chars) (rest : List Char) :
    EndsNumber (c :: rest) := by
  rintro c' more same
  obtain ⟨rfl, -⟩ := List.cons.inj same
  exact h

theorem EndsNumber.endsDigits (ends : EndsNumber rest) : EndsDigits rest := by
  intro c more same
  rw [Bool.eq_false_iff]
  exact fun digit => ends c more same (List.mem_cons_of_mem _ (Figures.mem_chars_of_isDigit digit))

/-- What stands for a sign; without one a number is not negative. -/
inductive SpellsSign : Bool → List Char → Prop
  | none : SpellsSign false []
  | plus : SpellsSign false ['+']
  | minus : SpellsSign true ['-']

/-- What stands for the exponent of a numeral, if it has one. -/
inductive SpellsExponent : Option Int → List Char → Prop
  | none : SpellsExponent none []
  | power {mark : Char} {negative : Bool} {sign digits : List Char}
      (isMark : mark = 'e' ∨ mark = 'E') (signed : SpellsSign negative sign) (filled : digits ≠ [])
      (isDigits : ∀ c ∈ digits, isDigit c = true) :
      SpellsExponent (some (if negative then -(digitsValue digits : Int) else digitsValue digits))
        (mark :: (sign ++ digits))

/-- The figures of a number in the grammar, followed by the characters of its exponent. -/
structure IsNumeral (f : Figures) (power : List Char) : Prop where
  valid : f.Valid
  unpadded : f.Unpadded
  exponent : SpellsExponent f.exponent power

/-- The sign in front of a number. -/
def minus (negative : Bool) : List Char := if negative then ['-'] else []

/-- What stands for a number: an integer if there is neither a point nor an exponent. -/
inductive SpellsNumber : Json → List Char → Prop
  | integer {whole : List Char} (negative : Bool) (numeral : IsNumeral ⟨whole, [], none⟩ [])
      (short : whole.length ≤ integerDigitLimit) :
      SpellsNumber (integer (if negative then -(digitsValue whole : Int) else digitsValue whole))
        (minus negative ++ whole)
  | double {f : Figures} {power : List Char} (negative : Bool) (numeral : IsNumeral f power)
      (marked : ¬(f.fraction = [] ∧ f.exponent = none)) :
      SpellsNumber (double (f.decimal.toDouble negative))
        (minus negative ++ (f.whole ++ (f.fractionText ++ power)))

section Numbers

variable {f : Figures} {power cs : List Char}

/-- A sign is told from the digits after it. -/
theorem SpellsSign.split {negative : Bool} {sign digits : List Char} (h : SpellsSign negative sign)
    (filled : digits ≠ []) (isDigits : ∀ c ∈ digits, isDigit c = true) :
    splitSign (sign ++ (digits ++ rest)) = (negative, digits ++ rest) := by
  obtain ⟨c, more, rfl⟩ := List.exists_cons_of_ne_nil filled
  have digit : isDigit c = true := isDigits c List.mem_cons_self
  cases h with
  | plus => rfl
  | minus => rfl
  | none =>
    rw [List.nil_append, List.cons_append]
    refine splitSign.eq_3 _ ?_ ?_
    all_goals
      rintro _ same
      rw [(List.cons.inj same).1] at digit
      exact absurd digit (by decide)

theorem spellsSign_of_splitSign {negative : Bool} (split : splitSign cs = (negative, rest)) :
    ∃ sign, SpellsSign negative sign ∧ cs = sign ++ rest := by
  unfold splitSign at split
  split at split
  all_goals
    obtain ⟨rfl, rfl⟩ := Prod.mk.inj split
  · exact ⟨['-'], .minus, rfl⟩
  · exact ⟨['+'], .plus, rfl⟩
  · exact ⟨[], .none, rfl⟩

/-- An exponent does not begin with a digit or a point. -/
theorem SpellsExponent.start {exponent : Option Int} (h : SpellsExponent exponent power)
    (ends : EndsNumber rest) {c : Char} {more : List Char} (start : power ++ rest = c :: more) :
    isDigit c = false ∧ c ≠ '.' := by
  cases h with
  | none =>
    exact ⟨ends.endsDigits c more start, fun point =>
      ends c more start (by simp [point, Figures.chars])⟩
  | power isMark =>
    obtain ⟨rfl, -⟩ := List.cons.inj start
    rcases isMark with rfl | rfl <;> decide

/-- An exponent is split off where the number ends. -/
theorem SpellsExponent.split {exponent : Option Int} (h : SpellsExponent exponent power)
    (ends : EndsNumber rest) : splitExponent (power ++ rest) = (exponent, rest) := by
  cases h with
  | none =>
    cases rest with
    | nil => rfl
    | cons c more =>
      have other := ends c more rfl
      simp only [Figures.chars, List.mem_cons, not_or] at other
      simp [splitExponent, other]
  | @power mark negative sign digits isMark signed filled isDigits =>
    have split : splitSign (sign ++ (digits ++ rest)) = (negative, digits ++ rest) :=
      signed.split filled isDigits
    have taken := takeWhile_digits isDigits ends.endsDigits
    have dropped := dropWhile_digits isDigits ends.endsDigits
    obtain ⟨first, more, rfl⟩ := List.exists_cons_of_ne_nil filled
    have marked : (decide (mark = 'e') || decide (mark = 'E')) = true := by simpa using isMark
    rw [List.cons_append, List.append_assoc, splitExponent, if_pos marked, split]
    simp only [taken, dropped]

theorem spellsExponent_of_splitExponent {exponent : Option Int}
    (split : splitExponent cs = (exponent, rest)) :
    ∃ power, SpellsExponent exponent power ∧ cs = power ++ rest := by
  have absent (none : (Option.none, cs) = (exponent, rest)) :
      ∃ power, SpellsExponent exponent power ∧ cs = power ++ rest := by
    obtain ⟨rfl, rfl⟩ := Prod.mk.inj none
    exact ⟨[], .none, rfl⟩
  cases cs with
  | nil => exact absent split
  | cons mark tail =>
    rw [splitExponent] at split
    split_ifs at split with isMark
    · rcases signSplit : splitSign tail with ⟨negative, after⟩
      obtain ⟨sign, signed, rfl⟩ := spellsSign_of_splitSign signSplit
      simp only [signSplit] at split
      cases digits : after.takeWhile isDigit with
      | nil =>
        rw [digits] at split
        exact absent split
      | cons first more =>
        simp only [digits] at split
        obtain ⟨rfl, rfl⟩ := Prod.mk.inj split
        have isDigits : ∀ c ∈ first :: more, isDigit c = true :=
          digits ▸ fun _ => List.mem_takeWhile_imp
        refine ⟨mark :: (sign ++ first :: more), .power (by simpa using isMark) signed
          (List.cons_ne_nil _ _) isDigits, ?_⟩
        rw [← digits, List.cons_append, List.append_assoc, List.takeWhile_append_dropWhile]
    · exact absent split

/-- The digits after a point are split off with it. -/
theorem splitFraction_fraction (f : Figures) (isDigits : ∀ c ∈ f.fraction, isDigit c = true)
    (ends : ∀ c more, rest = c :: more → isDigit c = false ∧ c ≠ '.') :
    splitFraction (f.fractionText ++ rest) = (f.fraction, rest) := by
  unfold Figures.fractionText
  by_cases none : f.fraction = []
  · have unpointed : ∀ more, rest ≠ '.' :: more := fun more point => (ends '.' more point).2 rfl
    rw [if_pos none, none, List.nil_append]
    exact splitFraction.eq_2 _ unpointed
  · have ends' : EndsDigits rest := fun c more same => (ends c more same).1
    have taken := takeWhile_digits isDigits ends'
    have dropped := dropWhile_digits isDigits ends'
    obtain ⟨first, more, digits⟩ := List.exists_cons_of_ne_nil none
    rw [if_neg none, List.cons_append, splitFraction, taken, dropped, digits]

theorem exists_of_splitFraction {digits : List Char} (split : splitFraction cs = (digits, rest)) :
    (∀ c ∈ digits, isDigit c = true) ∧
      cs = (if digits = [] then [] else '.' :: digits) ++ rest := by
  have absent (none : (([] : List Char), cs) = (digits, rest)) :
      (∀ c ∈ digits, isDigit c = true) ∧
        cs = (if digits = [] then [] else '.' :: digits) ++ rest := by
    obtain ⟨rfl, rfl⟩ := Prod.mk.inj none
    exact ⟨fun _ h => absurd h List.not_mem_nil, rfl⟩
  unfold splitFraction at split
  split at split
  · rename_i tail
    cases taken : tail.takeWhile isDigit with
    | nil =>
      rw [taken] at split
      exact absent split
    | cons first more =>
      simp only [taken] at split
      obtain ⟨rfl, rfl⟩ := Prod.mk.inj split
      refine ⟨taken ▸ fun _ => List.mem_takeWhile_imp, ?_⟩
      rw [if_neg (List.cons_ne_nil _ _), ← taken, List.cons_append,
        List.takeWhile_append_dropWhile]
  · exact absent split

/-- The digits in front of what is no digit are split off, unless they start with a zero. -/
theorem splitWhole_whole (valid : f.Valid) (unpadded : f.Unpadded) (ends : EndsDigits rest) :
    splitWhole (f.whole ++ rest) = (f.whole, rest) := by
  by_cases zero : ∃ more, f.whole = '0' :: more
  · obtain ⟨more, whole⟩ := zero
    rw [whole, unpadded more whole]
    rfl
  · have unzeroed : ∀ more, f.whole ++ rest ≠ '0' :: more := by
      obtain ⟨first, others, whole⟩ := List.exists_cons_of_ne_nil valid.filled
      intro more same
      rw [whole, List.cons_append] at same
      exact zero ⟨others, by rw [whole, (List.cons.inj same).1]⟩
    rw [splitWhole.eq_2 _ unzeroed, takeWhile_digits valid.whole ends,
      dropWhile_digits valid.whole ends]

theorem exists_of_splitWhole {whole : List Char} (split : splitWhole cs = (whole, rest)) :
    cs = whole ++ rest ∧ (∀ c ∈ whole, isDigit c = true) ∧
      ∀ more, whole = '0' :: more → more = [] := by
  unfold splitWhole at split
  split at split
  all_goals
    obtain ⟨rfl, rfl⟩ := Prod.mk.inj split
  · exact ⟨rfl, List.forall_mem_singleton.2 rfl, fun more same => (List.cons.inj same).2.symm⟩
  · rename_i unzeroed
    refine ⟨List.takeWhile_append_dropWhile.symm, fun _ => List.mem_takeWhile_imp, ?_⟩
    intro more zero
    refine absurd ?_ (unzeroed (more ++ cs.dropWhile isDigit))
    rw [← List.cons_append, ← zero, List.takeWhile_append_dropWhile]

/-- How the figures of a numeral, with or without a sign, are read up to their end: as an integer if
    there is neither a point nor an exponent. -/
theorem IsNumeral.readNumber (h : IsNumeral f power) (ends : EndsNumber rest) (negative : Bool) :
    readNumber (minus negative ++ (f.whole ++ (f.fractionText ++ power)) ++ rest)
      = if f.fraction = [] ∧ f.exponent = none then
          if integerDigitLimit < f.whole.length then
            .error (.integerTooLong,
              minus negative ++ (f.whole ++ (f.fractionText ++ power)) ++ rest)
          else
            .ok (integer (if negative then -digitsValue f.whole else digitsValue f.whole), rest)
        else .ok (double (f.decimal.toDouble negative), rest) := by
  have whole : f.whole.isEmpty = false := by simpa using h.valid.filled
  have exponent := h.exponent.split ends
  have point := splitFraction_fraction f h.valid.fraction fun _ _ => h.exponent.start ends
  have parts : splitWhole (f.whole ++ (f.fractionText ++ (power ++ rest)))
      = (f.whole, f.fractionText ++ (power ++ rest)) :=
    splitWhole_whole h.valid h.unpadded
      (Figures.endsDigits_fractionText fun _ _ start => (h.exponent.start ends start).1)
  obtain ⟨c, more, written⟩ := List.exists_cons_of_ne_nil h.valid.filled
  have unsigned : c ≠ '-' := by
    rintro rfl
    exact absurd (h.valid.whole '-' (written ▸ List.mem_cons_self)) (by decide)
  simp only [List.append_assoc]
  cases negative with
  | true =>
    simp [minus, Json.readNumber, parts, point, exponent, whole, Figures.decimal]
  | false =>
    rw [written, List.cons_append] at parts
    simp [minus, written, Json.readNumber, unsigned, parts, point, exponent, Figures.decimal]

/-- What spells a number is read as the number, unless it goes on. -/
theorem SpellsNumber.read {value : Json} {used : List Char} (h : SpellsNumber value used)
    (ends : EndsNumber rest) : readNumber (used ++ rest) = .ok (value, rest) := by
  cases h with
  | @integer whole negative numeral short =>
    have reads := numeral.readNumber ends negative
    simpa [Figures.fractionText, Nat.not_lt.2 short] using reads
  | double negative numeral marked =>
    rw [numeral.readNumber ends negative, if_neg marked]

/-- Nothing is read as a number but what spells it. -/
theorem spellsNumber_of_readNumber {value : Json} (read : readNumber cs = .ok (value, rest)) :
    ∃ used, SpellsNumber value used ∧ cs = used ++ rest := by
  unfold readNumber at read
  split at read
  rename_i negative unsigned sign
  obtain rfl : cs = minus negative ++ unsigned := by
    split at sign
    all_goals
      obtain ⟨rfl, rfl⟩ := Prod.mk.inj sign
      rfl
  rcases wholeSplit : splitWhole unsigned with ⟨whole, afterWhole⟩
  rcases fractionSplit : splitFraction afterWhole with ⟨fraction, afterFraction⟩
  rcases exponentSplit : splitExponent afterFraction with ⟨exponent, tail⟩
  simp only [wholeSplit, fractionSplit, exponentSplit] at read
  obtain ⟨rfl, isWhole, unpadded⟩ := exists_of_splitWhole wholeSplit
  obtain ⟨isFraction, rfl⟩ := exists_of_splitFraction fractionSplit
  obtain ⟨power, spelled, rfl⟩ := spellsExponent_of_splitExponent exponentSplit
  have filled : whole ≠ [] := by
    rintro rfl
    cases read
  have numeral : IsNumeral ⟨whole, fraction, exponent⟩ power :=
    ⟨⟨filled, List.forall_mem_append.2 ⟨isWhole, isFraction⟩⟩, unpadded, spelled⟩
  rw [if_neg (by simpa using filled)] at read
  by_cases plain : fraction = [] ∧ exponent = none
  · obtain ⟨rfl, rfl⟩ := plain
    cases spelled
    by_cases long : integerDigitLimit < whole.length
    · rw [if_pos rfl, if_pos long] at read
      cases read
    · rw [if_pos rfl, if_neg long] at read
      obtain ⟨rfl, rfl⟩ := Prod.mk.inj (Except.ok.inj read)
      exact ⟨minus negative ++ whole, .integer negative numeral (Nat.not_lt.1 long), by simp⟩
  · have marked : ¬(fraction.isEmpty && exponent.isNone) = true := by simpa using plain
    rw [if_neg marked] at read
    obtain ⟨rfl, rfl⟩ := Prod.mk.inj (Except.ok.inj read)
    exact ⟨_, .double negative numeral plain, by simp [Figures.fractionText]⟩

theorem SpellsExponent.mem_chars {exponent : Option Int} (h : SpellsExponent exponent power) :
    ∀ c ∈ power, c ∈ 'E' :: Figures.chars := by
  cases h with
  | none => exact fun _ h => absurd h List.not_mem_nil
  | @power mark _ sign digits isMark signed _ isDigits =>
    have sign' : ∀ c ∈ sign, c ∈ 'E' :: Figures.chars := by
      cases signed <;> exact Text.forall_mem_of_all (by decide)
    refine List.forall_mem_cons.2 ⟨?_, List.forall_mem_append.2 ⟨sign', fun c hc => ?_⟩⟩
    · rcases isMark with rfl | rfl <;> decide
    · exact List.mem_cons_of_mem _ (Figures.mem_chars_of_isDigit (isDigits c hc))

theorem IsNumeral.mem_chars (h : IsNumeral f power) :
    ∀ c ∈ f.whole ++ (f.fractionText ++ power), c ∈ 'E' :: Figures.chars := by
  have digits {c : Char} (digit : isDigit c = true) : c ∈ 'E' :: Figures.chars :=
    List.mem_cons_of_mem _ (Figures.mem_chars_of_isDigit digit)
  refine List.forall_mem_append.2 ⟨fun c hc => digits (h.valid.whole c hc),
    List.forall_mem_append.2 ⟨?_, h.exponent.mem_chars⟩⟩
  unfold Figures.fractionText
  split
  · exact fun _ h => absurd h List.not_mem_nil
  · exact List.forall_mem_cons.2 ⟨by decide, fun c hc => digits (h.valid.fraction c hc)⟩

/-- A number has characters of numerals only. -/
theorem SpellsNumber.mem_chars {value : Json} {used : List Char} (h : SpellsNumber value used) :
    ∀ c ∈ used, c ∈ 'E' :: Figures.chars := by
  have sign (negative : Bool) : ∀ c ∈ minus negative, c ∈ 'E' :: Figures.chars := by
    cases negative <;> exact Text.forall_mem_of_all (by decide)
  cases h with
  | integer negative numeral =>
    exact List.forall_mem_append.2 ⟨sign negative, fun c hc =>
      numeral.mem_chars c (List.mem_append_left _ hc)⟩
  | double negative numeral =>
    exact List.forall_mem_append.2 ⟨sign negative, numeral.mem_chars⟩

/-- A number begins with a digit, after its sign. -/
theorem SpellsNumber.start {value : Json} {used : List Char} (h : SpellsNumber value used) :
    ∃ negative c more, used = minus negative ++ c :: more ∧ isDigit c = true := by
  cases h with
  | @integer whole negative numeral =>
    obtain ⟨c, more, same⟩ := List.exists_cons_of_ne_nil numeral.valid.filled
    obtain rfl : whole = c :: more := same
    exact ⟨negative, c, more, rfl, numeral.valid.whole c List.mem_cons_self⟩
  | @double f power negative numeral =>
    obtain ⟨c, more, same⟩ := List.exists_cons_of_ne_nil numeral.valid.filled
    exact ⟨negative, c, more ++ (f.fractionText ++ power), by rw [same, List.cons_append],
      numeral.valid.whole c (same ▸ List.mem_cons_self)⟩

end Numbers

-- ============================================================================
-- Names
-- ============================================================================

/-- What stands for a value that is neither in quotation marks nor in brackets. -/
inductive SpellsWord : Json → List Char → Prop
  | null : SpellsWord null ['n', 'u', 'l', 'l']
  | true : SpellsWord (bool true) ['t', 'r', 'u', 'e']
  | false : SpellsWord (bool false) ['f', 'a', 'l', 's', 'e']
  | nan : SpellsWord (double .nan) ['N', 'a', 'N']
  | infinite (negative : Bool) : SpellsWord (double (.infinite negative))
      (minus negative ++ ['I', 'n', 'f', 'i', 'n', 'i', 't', 'y'])
  | number {value : Json} {used : List Char} (h : SpellsNumber value used) : SpellsWord value used

section Words

variable {value : Json} {used cs : List Char}

theorem SpellsWord.read (h : SpellsWord value used) (ends : EndsNumber rest) :
    readWord (used ++ rest) = .ok (value, rest) := by
  cases h with
  | null | true | false | nan => rfl
  | infinite negative => cases negative <;> rfl
  | number h =>
    have reads := h.read ends
    obtain ⟨negative, c, more, rfl, digit⟩ := h.start
    have other (d : Char) (plain : isDigit d = Bool.false) : c ≠ d := by
      rintro rfl
      rw [digit] at plain
      cases plain
    rw [← reads]
    cases negative with
    | true =>
      simp [minus, readWord, other 'I' rfl]
    | false =>
      simp [minus, readWord, other 'n' rfl, other 't' rfl, other 'f' rfl, other 'N' rfl,
        other 'I' rfl, other '-' rfl]

/-- A word begins neither a gap nor anything in quotation marks or brackets, nor does it end a
    list. -/
theorem SpellsWord.start (h : SpellsWord value used) :
    ∃ c more, used = c :: more ∧ isSpace c = Bool.false ∧ c ∉ ['"', '[', ']', '\x7b'] := by
  have apart : ∀ c ∈ '-' :: 'I' :: Figures.chars,
      isSpace c = Bool.false ∧ c ∉ ['"', '[', ']', '\x7b'] := Text.forall_mem_of_all (by decide)
  have signed (negative : Bool) {c : Char} (more : List Char) (start : c ∈ 'I' :: Figures.chars) :
      ∃ d tail, minus negative ++ c :: more = d :: tail ∧ isSpace d = Bool.false ∧
        d ∉ ['"', '[', ']', '\x7b'] := by
    cases negative with
    | true => exact ⟨'-', c :: more, rfl, apart '-' List.mem_cons_self⟩
    | false => exact ⟨c, more, rfl, apart c (List.mem_cons_of_mem _ start)⟩
  cases h with
  | null | true | false | nan => exact ⟨_, _, rfl, by decide⟩
  | infinite negative => exact signed negative _ List.mem_cons_self
  | number h =>
    obtain ⟨negative, c, more, rfl, digit⟩ := h.start
    exact signed negative more (List.mem_cons_of_mem _ (Figures.mem_chars_of_isDigit digit))

theorem SpellsWord.printable (h : SpellsWord value used) : ∀ c ∈ used, 0x20 ≤ c.toNat := by
  cases h with
  | null | true | false | nan => exact Text.forall_mem_of_all (by decide)
  | infinite negative => cases negative <;> exact Text.forall_mem_of_all (by decide)
  | number h =>
    have chars : ∀ c ∈ 'E' :: Figures.chars, 0x20 ≤ c.toNat := Text.forall_mem_of_all (by decide)
    exact fun c hc => chars c (h.mem_chars c hc)

/-- Nothing is read as a word but what spells it. -/
theorem spellsWord_of_readWord (read : readWord cs = .ok (value, rest)) :
    ∃ used, SpellsWord value used ∧ cs = used ++ rest := by
  unfold readWord at read
  split at read
  case h_7 =>
    obtain ⟨used, spelled, same⟩ := spellsNumber_of_readNumber read
    exact ⟨used, .number spelled, same⟩
  all_goals
    obtain ⟨rfl, rfl⟩ := Prod.mk.inj (Except.ok.inj read)
  · exact ⟨_, .null, rfl⟩
  · exact ⟨_, .true, rfl⟩
  · exact ⟨_, .false, rfl⟩
  · exact ⟨_, .nan, rfl⟩
  · exact ⟨_, .infinite Bool.false, rfl⟩
  · exact ⟨_, .infinite Bool.true, rfl⟩

end Words
end HomeAutomation.Json
