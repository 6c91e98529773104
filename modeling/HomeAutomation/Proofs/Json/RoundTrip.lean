/-
  HomeAutomation.Proofs.Json.RoundTrip

  What is written as JSON is read as it was.  That goes for values that JSON has
  numerals for, whose integers are not too long, whose objects have no key twice
  and which do not go too deep (`Writable`).  What is written of such a value
  spells it, and from that it is read, since the reader takes what the grammar
  says.
-/

import HomeAutomation.Json.Writer
import HomeAutomation.Proofs.Json.Grammar
import HomeAutomation.Proofs.Table

namespace HomeAutomation.Json

open Number

-- ============================================================================
-- Texts
-- ============================================================================

/-- The escape of a control character, and what it stands for. -/
theorem unitEscape_eq : ∀ n < 0x20,
    unitEscape n = ['\\', 'u', '0', '0', Nat.digitChar (n / 16), Nat.digitChar (n % 16)] ∧
      hexUnit? '0' '0' (Nat.digitChar (n / 16)) (Nat.digitChar (n % 16)) = some n ∧
      Text.isHighUnit n = false ∧ Text.unitChar n = Char.ofNat n := by
  decide

/-- A character is written by what stands for it. -/
theorem spellsText_escapeChar {value used : List Char} (c : Char) (later : SpellsText value used) :
    SpellsText (c :: value) (escapeChar false c ++ used) := by
  have named {n : Nat} {d : Char} (same : c.toNat = n) (code : d.toNat = n) : d = c :=
    Char.toNat_inj.1 (code.trans same.symm)
  unfold escapeChar
  split_ifs with quote backslash newline return' tab backspace feed control
  · exact .letter (by rw [quote]; rfl) later
  · exact .letter (by rw [backslash]; rfl) later
  · exact .letter (by rw [newline]; rfl) later
  · exact .letter (by rw [return']; rfl) later
  · exact .letter (by rw [tab]; rfl) later
  · exact .letter (by rw [← named backspace (d := '\u0008') rfl]; rfl) later
  · exact .letter (by rw [← named feed (d := '\u000C') rfl]; rfl) later
  · have low : c.toNat < 0x20 := by simpa using control
    obtain ⟨written, hex, single, plain⟩ := unitEscape_eq c.toNat low
    have alone : ¬MakesPair c.toNat used := fun pair => by
      have isHigh := pair.1
      rw [single] at isHigh
      cases isHigh
    have spelled := SpellsText.unit hex alone later
    rw [plain, Char.ofNat_toNat] at spelled
    rw [codeEscape, if_pos (by omega), written]
    exact spelled
  · have high : ¬c.toNat < 0x20 := by simpa using control
    exact .plain quote backslash (Nat.not_lt.1 high) later

/-- What is written of a text spells it. -/
theorem spellsText_writeText (value : String) :
    ∃ cs, (writeText false value).toList = '"' :: cs ∧ SpellsText value.toList cs := by
  refine ⟨value.toList.flatMap (escapeChar false) ++ ['"'], ?_, ?_⟩
  · rw [writeText, String.toList_ofList]
    rfl
  · induction value.toList with
    | nil => exact .close
    | cons c rest ih =>
      rw [List.flatMap_cons, List.append_assoc]
      exact spellsText_escapeChar c ih

-- ============================================================================
-- Numbers
-- ============================================================================

theorem spellsExponent_exponentText (f : Figures) : SpellsExponent f.exponent f.exponentText := by
  unfold Figures.exponentText
  cases f.exponent with
  | none => exact .none
  | some order =>
    obtain ⟨digits, written, filled, isDigits, value⟩ := Figures.exponentText_eq order
    rw [Option.map_some, Option.getD_some, written]
    by_cases negative : order < 0
    · have spelled := SpellsExponent.power (.inl rfl : 'e' = 'e' ∨ _) .minus filled isDigits
      rw [value, if_pos rfl, show -(order.natAbs : Int) = order by omega] at spelled
      rw [if_pos negative]
      exact spelled
    · have spelled := SpellsExponent.power (.inl rfl : 'e' = 'e' ∨ _) .plus filled isDigits
      rw [value, if_neg (by decide), show (order.natAbs : Int) = order by omega] at spelled
      rw [if_neg negative]
      exact spelled

/-- A sign is written in front of a number. -/
theorem toList_signed (negative : Bool) (text : List Char) :
    (Double.signed negative text).toList = minus negative ++ text := by
  rw [Double.signed, String.toList_ofList]
  cases negative <;> rfl

/-- An integer is written by what spells it, unless it is too long. -/
theorem spells_integer {n : Int} (fits : (integer n).integersFit = true) (depth : Nat) :
    Spells depth (integer n) (write wire (integer n)).toList := by
  have unpadded : Figures.Unpadded ⟨Nat.toDigits 10 n.natAbs, [], none⟩ := by
    intro rest zero
    by_cases none : n.natAbs = 0
    · rw [none] at zero
      exact (List.cons.inj zero).2.symm
    · exact absurd zero (toDigits_ne_zero_cons none rest)
  have short : (Nat.toDigits 10 n.natAbs).length ≤ integerDigitLimit := by
    simpa [integersFit] using fits
  have spelled := SpellsNumber.integer (decide (n < 0))
    ⟨valid_toDigits n.natAbs, unpadded, .none⟩ short
  have value : (if decide (n < 0) then -(digitsValue (Nat.toDigits 10 n.natAbs) : Int)
      else digitsValue (Nat.toDigits 10 n.natAbs)) = n := by
    rw [digitsValue_toDigits]
    by_cases negative : n < 0
    · rw [if_pos (by simpa using negative)]
      omega
    · rw [if_neg (by simpa using negative)]
      omega
  have text : (write wire (Json.integer n)).toList
      = minus (decide (n < 0)) ++ Nat.toDigits 10 n.natAbs := by
    rw [write, toString_eq_signed, toList_signed]
    simp [Figures.text, Figures.fractionText, Figures.exponentText]
  rw [value, ← text] at spelled
  exact .word (.number spelled)

/-- A finite double is written by the figures of a numeral. -/
theorem exists_signed_of_isFinite {d : Double} (finite : d.isFinite = true) :
    ∃ (negative : Bool) (f : Figures), f.Valid ∧ f.Unpadded ∧
      ¬(f.fraction = [] ∧ f.exponent = none) ∧
      write wire (double d) = Double.signed negative f.text ∧ f.decimal.toDouble negative = d := by
  cases d with
  | nan | infinite => cases finite
  | finite negative rank =>
    obtain ⟨f, valid, unpadded, placed, written, value⟩ := Double.exists_figures_repr negative rank
    refine ⟨negative, f, valid, unpadded, fun ⟨point, power⟩ => placed.elim (· point) (· power), ?_,
      value⟩
    rw [write, writeDouble, written]
    · rintro ⟨⟩
    · rintro _ ⟨⟩

/-- A finite double is written by what spells it. -/
theorem spells_double {d : Double} (finite : d.isFinite = true) (depth : Nat) :
    Spells depth (double d) (write wire (double d)).toList := by
  obtain ⟨negative, f, valid, unpadded, marked, written, rfl⟩ := exists_signed_of_isFinite finite
  have spelled := SpellsNumber.double negative
    ⟨valid, unpadded, spellsExponent_exponentText f⟩ marked
  rw [written, toList_signed, Figures.text]
  exact .word (.number spelled)

-- ============================================================================
-- Values
-- ============================================================================

/-- The values that can be written so that they are read as they were, `depth` being how many lists
    and objects may stand within each other. -/
inductive Writable : Nat → Json → Prop
  | null (depth : Nat) : Writable depth null
  | bool (depth : Nat) (value : Bool) : Writable depth (bool value)
  | integer (depth : Nat) {value : Int} (fits : (integer value).integersFit = true) :
      Writable depth (integer value)
  | double (depth : Nat) {value : Double} (finite : value.isFinite = true) :
      Writable depth (double value)
  | text (depth : Nat) (value : String) : Writable depth (text value)
  | list {depth : Nat} {items : List Json} (each : ∀ item ∈ items, Writable depth item) :
      Writable (depth + 1) (list items)
  | object {depth : Nat} {fields : Table Json} (distinct : (fields.map (·.1)).Nodup)
      (each : ∀ field ∈ fields, Writable depth field.2) : Writable (depth + 1) (object fields)

/-- The items of a list, written one after the other, are spelled if each of them is. -/
theorem spellsItems_write {depth : Nat} {items : List Json} (filled : items ≠ [])
    (each : ∀ item ∈ items, Spells depth item (write wire item).toList) :
    SpellsItems depth items
      ((wire.itemSeparator.intercalate (writeItems wire items)).toList ++ [']']) := by
  induction items with
  | nil => exact absurd rfl filled
  | cons item items ih =>
    have first := each item List.mem_cons_self
    cases items with
    | nil => simpa [writeItems] using SpellsItems.last first isSpacing_nil
    | cons next more =>
      have later := ih (List.cons_ne_nil _ _) fun item h => each item (List.mem_cons_of_mem _ h)
      simpa [writeItems, wire] using SpellsItems.more first isSpacing_nil isSpacing_nil later

/-- The fields of an object, written one after the other, are spelled if the value of each is. -/
theorem spellsFields_write {depth : Nat} {fields : List (String × Json)} (filled : fields ≠ [])
    (each : ∀ field ∈ fields, Spells depth field.2 (write wire field.2).toList) :
    SpellsFields depth fields
      ((wire.itemSeparator.intercalate (writeFields wire fields)).toList ++ ['\x7d']) := by
  induction fields with
  | nil => exact absurd rfl filled
  | cons field fields ih =>
    obtain ⟨key, value⟩ := field
    obtain ⟨quoted, written, keyed⟩ := spellsText_writeText key
    have first := SpellsField.mk keyed isSpacing_nil isSpacing_nil (each _ List.mem_cons_self)
    rw [String.ofList_toList] at first
    cases fields with
    | nil => simpa [writeFields, written, wire] using SpellsFields.last first isSpacing_nil
    | cons next more =>
      have later := ih (List.cons_ne_nil _ _) fun field h => each field (List.mem_cons_of_mem _ h)
      simpa [writeFields, written, wire] using
        SpellsFields.more first isSpacing_nil isSpacing_nil later

theorem toList_write_object (fields : Table Json) :
    (write wire (object fields)).toList
      = '\x7b' :: ((wire.itemSeparator.intercalate (writeFields wire fields)).toList
        ++ ['\x7d']) := by
  rw [write, String.toList_append, String.toList_append]
  rfl

/-- Fields without a key twice make a table of themselves. -/
theorem fieldTable_of_distinct {done fields : Table Json}
    (distinct : ((done ++ fields).map (·.1)).Nodup) : fieldTable fields done = done ++ fields := by
  induction fields generalizing done with
  | nil => exact (List.append_nil done).symm
  | cons field fields ih =>
    obtain ⟨key, value⟩ := field
    have entered : done.set key value = done ++ [(key, value)] := by
      refine Table.set_of_not_has (Bool.eq_false_iff.2 fun has => ?_) value
      rw [List.map_append, List.nodup_append] at distinct
      exact distinct.2.2 key (Table.has_iff_mem_names.1 has) key (by simp) rfl
    rw [List.append_cons] at distinct ⊢
    rw [← ih distinct, ← entered]
    rfl

/-- What is written of a value spells it. -/
theorem Writable.spells {depth : Nat} {value : Json} (h : Writable depth value) :
    Spells depth value (write wire value).toList := by
  induction h with
  | null => exact .word .null
  | bool depth value =>
    cases value with
    | true => exact .word .true
    | false => exact .word .false
  | integer depth fits => exact spells_integer fits depth
  | double depth finite => exact spells_double finite depth
  | text depth value =>
    obtain ⟨cs, written, spelled⟩ := spellsText_writeText value
    rw [show (write wire (Json.text value)).toList = '"' :: cs from written]
    have quoted : Spells depth (Json.text (String.ofList value.toList)) ('"' :: cs) := .text spelled
    rwa [String.ofList_toList] at quoted
  | @list depth items each ih =>
    have written : (write wire (Json.list items)).toList
        = '[' :: ((wire.itemSeparator.intercalate (writeItems wire items)).toList ++ [']']) := by
      rw [write, String.toList_append, String.toList_append]
      rfl
    rw [written]
    by_cases filled : items = []
    · rw [filled]
      exact .emptyList isSpacing_nil
    · have spelled := Spells.list isSpacing_nil (spellsItems_write filled ih)
      exact spelled
  | @object depth fields distinct each ih =>
    rw [toList_write_object]
    by_cases filled : fields = []
    · rw [filled]
      exact .emptyObject isSpacing_nil
    · have spelled := Spells.object isSpacing_nil (spellsFields_write filled ih)
      rwa [fieldTable_of_distinct (by rwa [List.nil_append]), List.nil_append] at spelled

-- ============================================================================
-- Whole texts
-- ============================================================================

/-- The text of a value is read as the value. -/
theorem read_write {value : Json} (h : Writable nestingLimit value) :
    read (write wire value) = .ok value :=
  read_eq_ok_iff.2 ⟨[], _, [], isSpacing_nil, h.spells, isSpacing_nil, by simp⟩

/-- What starts with a brace and a quotation mark is taken for UTF-8. -/
theorem readBody_of_start {source : String} {more : List Char}
    (start : source.toList = '\x7b' :: '"' :: more) : readBody source = read source := by
  have bytes : ∃ rest, source.toUTF8.data.toList = 0x7b :: 0x22 :: rest := by
    have source' : source = String.ofList ('\x7b' :: '"' :: more) := by
      rw [← start, String.ofList_toList]
    subst source'
    refine ⟨(List.flatMap String.utf8EncodeChar more), ?_⟩
    simp [String.toUTF8, List.utf8Encode]
    rfl
  obtain ⟨rest, bytes⟩ := bytes
  have encoding : Text.Encoding.ofZeros (0x7b :: 0x22 :: rest) = .utf8 := by
    rcases rest with _ | ⟨c, _ | ⟨d, tail⟩⟩ <;> rfl
  unfold readBody
  rw [start, bytes, encoding]
  rfl

/-- An object with a field, sent as the body of a message, is read as it was. -/
theorem readBody_write {fields : Table Json} (h : Writable nestingLimit (object fields))
    (filled : fields ≠ []) : readBody (write wire (object fields)) = .ok (object fields) := by
  cases h with
  | @object depth _ distinct each =>
    obtain ⟨more, start⟩ := (spellsFields_write filled fun field hf => (each field hf).spells).start
    have text : (write wire (object fields)).toList = '\x7b' :: '"' :: more := by
      rw [toList_write_object, start]
    rw [readBody_of_start text, read_write (.object distinct each)]

end HomeAutomation.Json
