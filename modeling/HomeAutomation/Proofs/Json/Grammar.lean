/-
  HomeAutomation.Proofs.Json.Grammar

  The grammar of JSON texts.  `Spells` tells which characters stand for which
  value, and the reader decides it: what spells a value is read as that value
  wherever it ends, and nothing else is read.  The characters of an object say
  themselves where they end, so that no part of them, cut off at the end, is a
  text of anything.
-/

import HomeAutomation.Proofs.Json.Token
import HomeAutomation.Proofs.Rule.Parser

namespace HomeAutomation.Json

open Number

-- ============================================================================
-- The grammar
-- ============================================================================

/-- Characters that may stand between tokens. -/
def IsSpacing (gap : List Char) : Prop := ∀ c ∈ gap, isSpace c = true

theorem isSpacing_nil : IsSpacing [] := fun _ h => absurd h List.not_mem_nil

/-- The table that fields make, in the order in which they stand. -/
def fieldTable (fields : List (String × Json)) (done : Table Json) : Table Json :=
  fields.foldl (fun table field => Table.set table field.1 field.2) done

mutual

/-- What stands for a value, without anything around it; `depth` lists and objects may stand within
    each other there. -/
inductive Spells : Nat → Json → List Char → Prop
  | word {depth : Nat} {value : Json} {used : List Char} (spelled : SpellsWord value used) :
      Spells depth value used
  | text {depth : Nat} {value used : List Char} (spelled : SpellsText value used) :
      Spells depth (text (String.ofList value)) ('"' :: used)
  | emptyList {depth : Nat} {gap : List Char} (spacing : IsSpacing gap) :
      Spells (depth + 1) (list []) ('[' :: (gap ++ [']']))
  | list {depth : Nat} {gap used : List Char} {items : List Json} (spacing : IsSpacing gap)
      (spelled : SpellsItems depth items used) :
      Spells (depth + 1) (list items) ('[' :: (gap ++ used))
  | emptyObject {depth : Nat} {gap : List Char} (spacing : IsSpacing gap) :
      Spells (depth + 1) (object []) ('\x7b' :: (gap ++ ['\x7d']))
  | object {depth : Nat} {gap used : List Char} {fields : List (String × Json)}
      (spacing : IsSpacing gap) (spelled : SpellsFields depth fields used) :
      Spells (depth + 1) (object (fieldTable fields [])) ('\x7b' :: (gap ++ used))

/-- What stands for the items of a list, its closing bracket included. -/
inductive SpellsItems : Nat → List Json → List Char → Prop
  | last {depth : Nat} {item : Json} {used gap : List Char} (spelled : Spells depth item used)
      (spacing : IsSpacing gap) : SpellsItems depth [item] (used ++ (gap ++ [']']))
  | more {depth : Nat} {item : Json} {used before after others : List Char} {items : List Json}
      (spelled : Spells depth item used) (spacing : IsSpacing before) (spacing' : IsSpacing after)
      (later : SpellsItems depth items others) :
      SpellsItems depth (item :: items) (used ++ (before ++ ',' :: (after ++ others)))

/-- What stands for a field: a key, a colon and a value. -/
inductive SpellsField : Nat → String × Json → List Char → Prop
  | mk {depth : Nat} {key quoted before after used : List Char} {value : Json}
      (keyed : SpellsText key quoted) (spacing : IsSpacing before) (spacing' : IsSpacing after)
      (spelled : Spells depth value used) :
      SpellsField depth (String.ofList key, value)
        ('"' :: (quoted ++ (before ++ ':' :: (after ++ used))))

/-- What stands for the fields of an object, its closing brace included. -/
inductive SpellsFields : Nat → List (String × Json) → List Char → Prop
  | last {depth : Nat} {field : String × Json} {used gap : List Char}
      (spelled : SpellsField depth field used) (spacing : IsSpacing gap) :
      SpellsFields depth [field] (used ++ (gap ++ ['\x7d']))
  | more {depth : Nat} {field : String × Json} {used before after others : List Char}
      {fields : List (String × Json)} (spelled : SpellsField depth field used)
      (spacing : IsSpacing before) (spacing' : IsSpacing after)
      (later : SpellsFields depth fields others) :
      SpellsFields depth (field :: fields) (used ++ (before ++ ',' :: (after ++ others)))

end

-- ============================================================================
-- Steps of the reader
-- ============================================================================

variable {fuel depth : Nat} {cs rest : List Char}

theorem skipSpace_of_cons {c : Char} (h : isSpace c = false) (cs : List Char) :
    skipSpace (c :: cs) = c :: cs := List.dropWhile_cons_of_neg (by simp [h])

theorem skipSpace_append {gap : List Char} (spacing : IsSpacing gap) (cs : List Char) :
    skipSpace (gap ++ cs) = skipSpace cs := List.dropWhile_append_of_pos spacing

/-- What is not skipped stands after what is. -/
theorem exists_spacing (cs : List Char) : ∃ gap, IsSpacing gap ∧ cs = gap ++ skipSpace cs :=
  ⟨cs.takeWhile isSpace, fun _ => List.mem_takeWhile_imp, List.takeWhile_append_dropWhile.symm⟩

theorem map_eq_ok_iff {ε α β : Type} {x : Except ε α} {f : α → β} {b : β} :
    x.map f = .ok b ↔ ∃ a, x = .ok a ∧ f a = b := by
  cases x with
  | error e => simp [Except.map]
  | ok a => simp [Except.map]

theorem mapError_eq_ok_iff {ε ε' α : Type} {x : Except ε α} {f : ε → ε'} {a : α} :
    x.mapError f = .ok a ↔ x = .ok a := by
  cases x with
  | error e => simp [Except.mapError]
  | ok b => simp [Except.mapError]

/-- What ends the items of a list, or comes before the next of them. -/
theorem readItems_eq_ok_iff {items : List Json} :
    readItems (fuel + 1) depth cs = .ok (items, rest) ↔
      ∃ item after, readValue fuel depth cs = .ok (item, after) ∧
        ((skipSpace after = ']' :: rest ∧ items = [item]) ∨
          ∃ tail others, skipSpace after = ',' :: tail ∧
            readItems fuel depth (skipSpace tail) = .ok (others, rest) ∧
            items = item :: others) := by
  rw [readItems, bind_eq_ok_iff]
  constructor
  · rintro ⟨⟨item, after⟩, read, h⟩
    refine ⟨item, after, read, ?_⟩
    dsimp only at h
    split at h
    · obtain ⟨rfl, rfl⟩ := Prod.mk.inj (Except.ok.inj h)
      exact .inl ⟨‹_›, rfl⟩
    · obtain ⟨⟨others, rest'⟩, later, h⟩ := bind_eq_ok_iff.1 h
      obtain ⟨rfl, rfl⟩ := Prod.mk.inj (Except.ok.inj h)
      exact .inr ⟨_, others, ‹_›, later, rfl⟩
    · cases h
  · rintro ⟨item, after, read, ⟨close, rfl⟩ | ⟨tail, others, comma, later, rfl⟩⟩
    · refine ⟨(item, after), read, ?_⟩
      simp only [close]
    · refine ⟨(item, after), read, ?_⟩
      simp only [comma]
      exact bind_eq_ok_iff.2 ⟨(others, rest), later, rfl⟩

/-- Whether a field is read: its key, a colon and its value. -/
def ReadsField (fuel depth : Nat) (cs : List Char) (field : String × Json) (rest : List Char) :
    Prop :=
  ∃ quoted after more, cs = '"' :: quoted ∧ readText cs [] quoted = .ok (field.1, after) ∧
    skipSpace after = ':' :: more ∧ readValue fuel depth (skipSpace more) = .ok (field.2, rest)

/-- What ends the fields of an object, or comes before the next of them. -/
theorem readFields_eq_ok_iff {done fields : Table Json} :
    readFields (fuel + 1) depth done cs = .ok (fields, rest) ↔
      ∃ field after, ReadsField fuel depth cs field after ∧
        ((skipSpace after = '\x7d' :: rest ∧ fields = done.set field.1 field.2) ∨
          ∃ tail, skipSpace after = ',' :: tail ∧
            readFields fuel depth (done.set field.1 field.2) (skipSpace tail)
              = .ok (fields, rest)) := by
  constructor
  · intro h
    unfold readFields at h
    split at h
    · obtain ⟨⟨key, after⟩, keyed, h⟩ := bind_eq_ok_iff.1 h
      dsimp only at h
      split at h
      · obtain ⟨⟨value, close⟩, read, h⟩ := bind_eq_ok_iff.1 h
        refine ⟨(key, value), close, ⟨_, after, _, rfl, keyed, ‹_›, read⟩, ?_⟩
        dsimp only at h
        split at h
        · obtain ⟨rfl, rfl⟩ := Prod.mk.inj (Except.ok.inj h)
          exact .inl ⟨‹_›, rfl⟩
        · exact .inr ⟨_, ‹_›, h⟩
        · cases h
      · cases h
    · cases h
  · rintro ⟨⟨key, value⟩, close, ⟨quoted, after, more, rfl, keyed, colon, read⟩, ends⟩
    rw [readFields, bind_eq_ok_iff]
    refine ⟨(key, after), keyed, ?_⟩
    simp only [colon]
    refine bind_eq_ok_iff.2 ⟨(value, close), read, ?_⟩
    rcases ends with ⟨brace, rfl⟩ | ⟨tail, comma, later⟩
    · simp only [brace]
    · simp only [comma, later]

theorem readValue_of_word {c : Char} (start : c ∉ ['"', '[', ']', '\x7b']) :
    readValue (fuel + 1) depth (c :: cs) = readWord (c :: cs) := by
  simp only [List.mem_cons, List.not_mem_nil, or_false, not_or] at start
  unfold readValue
  split <;> simp_all

/-- A list that starts with an item has those that are read. -/
theorem readValue_list {c : Char} {more : List Char} {items : List Json}
    (start : skipSpace cs = c :: more) (unclosed : c ≠ ']')
    (read : readItems fuel depth (c :: more) = .ok (items, rest)) :
    readValue (fuel + 1) (depth + 1) ('[' :: cs) = .ok (list items, rest) := by
  simp [readValue, start, unclosed, read, Except.map]

/-- An object that starts with a field has those that are read. -/
theorem readValue_object {more : List Char} {fields : Table Json}
    (start : skipSpace cs = '"' :: more)
    (read : readFields fuel depth [] ('"' :: more) = .ok (fields, rest)) :
    readValue (fuel + 1) (depth + 1) ('\x7b' :: cs) = .ok (object fields, rest) := by
  simp [readValue, start, read, Except.map]

-- ============================================================================
-- What is spelled is read
-- ============================================================================

theorem not_mem_chars_of_isSpace {c : Char} (space : isSpace c = true) :
    c ∉ 'E' :: Figures.chars := by
  have apart : ∀ c ∈ 'E' :: Figures.chars, isSpace c = false := Text.forall_mem_of_all (by decide)
  intro h
  rw [apart c h] at space
  cases space

theorem endsNumber_gap {gap : List Char} (spacing : IsSpacing gap) {c : Char}
    (mark : c ∉ 'E' :: Figures.chars) (cs : List Char) : EndsNumber (gap ++ c :: cs) := by
  cases gap with
  | nil => exact endsNumber_cons mark cs
  | cons d gap =>
    exact endsNumber_cons (not_mem_chars_of_isSpace (spacing d List.mem_cons_self)) _

theorem IsSpacing.endsNumber {gap : List Char} (spacing : IsSpacing gap) : EndsNumber gap := by
  cases gap with
  | nil => exact endsNumber_nil
  | cons d gap =>
    exact endsNumber_cons (not_mem_chars_of_isSpace (spacing d List.mem_cons_self)) _

/-- A value begins neither a gap nor does it end a list. -/
theorem Spells.start {value : Json} {used : List Char} (h : Spells depth value used) :
    ∃ c more, used = c :: more ∧ isSpace c = false ∧ c ≠ ']' := by
  cases h with
  | word spelled =>
    obtain ⟨c, more, same, space, mark⟩ := spelled.start
    exact ⟨c, more, same, space, fun close => mark (by simp [close])⟩
  | text | emptyList | list | emptyObject | object => exact ⟨_, _, rfl, by decide, by decide⟩

theorem SpellsItems.start {items : List Json} {used : List Char}
    (h : SpellsItems depth items used) :
    ∃ c more, used = c :: more ∧ isSpace c = false ∧ c ≠ ']' := by
  cases h with
  | last spelled | more spelled =>
    obtain ⟨c, more, rfl, apart⟩ := spelled.start
    exact ⟨c, _, List.cons_append, apart⟩

theorem SpellsField.start {field : String × Json} {used : List Char}
    (h : SpellsField depth field used) : ∃ more, used = '"' :: more := by
  cases h
  exact ⟨_, rfl⟩

theorem SpellsFields.start {fields : List (String × Json)} {used : List Char}
    (h : SpellsFields depth fields used) : ∃ more, used = '"' :: more := by
  cases h with
  | last spelled | more spelled =>
    obtain ⟨more, rfl⟩ := spelled.start
    exact ⟨_, List.cons_append⟩

mutual

/-- What spells a value is read as it. -/
theorem Spells.read {fuel depth : Nat} {value : Json} {used rest : List Char}
    (h : Spells depth value used) (enough : 2 * used.length ≤ fuel)
    (ends : SpellsWord value used → EndsNumber rest) :
    readValue fuel depth (used ++ rest) = .ok (value, rest) := by
  obtain ⟨c, more, same, -⟩ := h.start
  obtain ⟨fuel, rfl⟩ : ∃ k, fuel = k + 1 := by
    rw [same, List.length_cons] at enough
    exact ⟨fuel - 1, by omega⟩
  cases h with
  | word spelled =>
    obtain ⟨c, more, rfl, -, mark⟩ := spelled.start
    rw [List.cons_append, readValue_of_word mark, ← List.cons_append, spelled.read (ends spelled)]
  | @text _ value used spelled =>
    have reads := spelled.read ('"' :: (used ++ rest)) [] rest
    rw [List.cons_append, readValue]
    simp only [reads]
    rfl
  | @emptyList depth gap spacing =>
    have close : skipSpace (gap ++ ']' :: rest) = ']' :: rest := skipSpace_append spacing _
    rw [List.cons_append, List.append_assoc]
    simp [readValue, close]
  | @list depth gap used items spacing spelled =>
    obtain ⟨c, more, same, space, unclosed⟩ := spelled.start
    have start : skipSpace (gap ++ (used ++ rest)) = c :: (more ++ rest) := by
      rw [skipSpace_append spacing, same, List.cons_append, skipSpace_of_cons space]
    simp only [List.length_cons, List.length_append] at enough
    have reads : readItems fuel depth (used ++ rest) = .ok (items, rest) :=
      SpellsItems.read spelled (by omega)
    rw [same] at reads
    rw [List.cons_append, List.append_assoc]
    exact readValue_list start unclosed reads
  | @emptyObject depth gap spacing =>
    have close : skipSpace (gap ++ '\x7d' :: rest) = '\x7d' :: rest := skipSpace_append spacing _
    rw [List.cons_append, List.append_assoc]
    simp [readValue, close]
  | @object depth gap used fields spacing spelled =>
    obtain ⟨more, same⟩ := spelled.start
    have start : skipSpace (gap ++ (used ++ rest)) = '"' :: (more ++ rest) := by
      rw [skipSpace_append spacing, same]
      rfl
    simp only [List.length_cons, List.length_append] at enough
    have reads : readFields fuel depth [] (used ++ rest) = .ok (fieldTable fields [], rest) :=
      SpellsFields.read spelled (by omega) []
    rw [same] at reads
    rw [List.cons_append, List.append_assoc]
    exact readValue_object start reads

theorem SpellsItems.read {fuel depth : Nat} {items : List Json} {used rest : List Char}
    (h : SpellsItems depth items used)
    (enough : 2 * used.length + 1 ≤ fuel) :
    readItems fuel depth (used ++ rest) = .ok (items, rest) := by
  obtain ⟨fuel, rfl⟩ : ∃ k, fuel = k + 1 := ⟨fuel - 1, by omega⟩
  rw [readItems_eq_ok_iff]
  cases h with
  | @last _ item used gap spelled spacing =>
    simp only [List.length_cons, List.length_append] at enough
    have reads : readValue fuel depth (used ++ (gap ++ ']' :: rest)) = .ok (item, _) :=
      Spells.read spelled (by omega) fun _ => endsNumber_gap spacing (by decide) rest
    refine ⟨item, gap ++ ']' :: rest, ?_, .inl ⟨skipSpace_append spacing _, rfl⟩⟩
    simpa using reads
  | @more _ item used before after others items spelled spacing spacing' later =>
    simp only [List.length_cons, List.length_append] at enough
    have reads : readValue fuel depth (used ++ (before ++ ',' :: (after ++ (others ++ rest))))
        = .ok (item, _) :=
      Spells.read spelled (by omega) fun _ => endsNumber_gap spacing (by decide) _
    have skipped : skipSpace (after ++ (others ++ rest)) = others ++ rest := by
      obtain ⟨c, more, same, space, -⟩ := later.start
      rw [skipSpace_append spacing', same, List.cons_append, skipSpace_of_cons space]
    refine ⟨item, before ++ ',' :: (after ++ (others ++ rest)), ?_,
      .inr ⟨after ++ (others ++ rest), items, skipSpace_append spacing _, ?_, rfl⟩⟩
    · simpa using reads
    · rw [skipped]
      exact SpellsItems.read later (by omega)

theorem SpellsField.read {fuel depth : Nat} {field : String × Json} {used rest : List Char}
    (h : SpellsField depth field used) (enough : 2 * used.length ≤ fuel) (ends : EndsNumber rest) :
    ReadsField fuel depth (used ++ rest) field rest := by
  cases h with
  | @mk _ key quoted before after used value keyed spacing spacing' spelled =>
    simp only [List.length_cons, List.length_append] at enough
    have reads : readValue fuel depth (used ++ rest) = .ok (value, rest) :=
      Spells.read spelled (by omega) fun _ => ends
    have skipped : skipSpace (after ++ (used ++ rest)) = used ++ rest := by
      obtain ⟨c, more, same, space, -⟩ := spelled.start
      rw [skipSpace_append spacing', same, List.cons_append, skipSpace_of_cons space]
    have colon : skipSpace (before ++ ':' :: (after ++ (used ++ rest)))
        = ':' :: (after ++ (used ++ rest)) := skipSpace_append spacing _
    refine ⟨quoted ++ (before ++ ':' :: (after ++ (used ++ rest))), _, _, ?_, ?_, colon, ?_⟩
    · simp
    · exact keyed.read _ [] _
    · rw [skipped, reads]

theorem SpellsFields.read {fuel depth : Nat} {fields : List (String × Json)}
    {used rest : List Char} (h : SpellsFields depth fields used)
    (enough : 2 * used.length + 1 ≤ fuel) (done : Table Json) :
    readFields fuel depth done (used ++ rest) = .ok (fieldTable fields done, rest) := by
  obtain ⟨fuel, rfl⟩ : ∃ k, fuel = k + 1 := ⟨fuel - 1, by omega⟩
  rw [readFields_eq_ok_iff]
  cases h with
  | @last _ field used gap spelled spacing =>
    simp only [List.length_cons, List.length_append] at enough
    have reads : ReadsField fuel depth (used ++ (gap ++ '\x7d' :: rest)) field _ :=
      SpellsField.read spelled (by omega) (endsNumber_gap spacing (by decide) rest)
    refine ⟨field, gap ++ '\x7d' :: rest, ?_, .inl ⟨skipSpace_append spacing _, rfl⟩⟩
    simpa using reads
  | @more _ field used before after others fields spelled spacing spacing' later =>
    simp only [List.length_cons, List.length_append] at enough
    have reads : ReadsField fuel depth (used ++ (before ++ ',' :: (after ++ (others ++ rest))))
        field _ :=
      SpellsField.read spelled (by omega) (endsNumber_gap spacing (by decide) _)
    have skipped : skipSpace (after ++ (others ++ rest)) = others ++ rest := by
      obtain ⟨more, same⟩ := later.start
      rw [skipSpace_append spacing', same]
      rfl
    refine ⟨field, before ++ ',' :: (after ++ (others ++ rest)), ?_,
      .inr ⟨after ++ (others ++ rest), skipSpace_append spacing _, ?_⟩⟩
    · simpa using reads
    · rw [skipped]
      exact SpellsFields.read later (by omega) _

end

-- ============================================================================
-- What is read is spelled
-- ============================================================================

/-- Nothing is read with some fuel as a value, as items or as fields but what spells them. -/
structure ReadsSpelled (fuel : Nat) : Prop where
  value : ∀ {depth cs value rest}, readValue fuel depth cs = .ok (value, rest) →
    ∃ used, Spells depth value used ∧ cs = used ++ rest
  items : ∀ {depth cs items rest}, readItems fuel depth cs = .ok (items, rest) →
    ∃ used, SpellsItems depth items used ∧ cs = used ++ rest
  fields : ∀ {depth done cs fields rest}, readFields fuel depth done cs = .ok (fields, rest) →
    ∃ used entries, SpellsFields depth entries used ∧ cs = used ++ rest ∧
      fields = fieldTable entries done

namespace ReadsSpelled

variable {done fields : Table Json} {value : Json} {items : List Json} (h : ReadsSpelled fuel)
include h

theorem value_step (read : readValue (fuel + 1) depth cs = .ok (value, rest)) :
    ∃ used, Spells depth value used ∧ cs = used ++ rest := by
  unfold readValue at read
  split at read
  case h_1 =>
    obtain ⟨⟨text, after⟩, reads, same⟩ := map_eq_ok_iff.1 read
    obtain ⟨rfl, rfl⟩ := Prod.mk.inj same
    obtain ⟨value, used, rfl, spelled, rfl⟩ := spellsText_of_readText reads
    exact ⟨'"' :: used, .text spelled, rfl⟩
  case h_2 => cases read
  case h_3 => cases read
  case h_4 tail depth =>
    obtain ⟨gap, spacing, skipped⟩ := exists_spacing tail
    split at read
    · rename_i close
      obtain ⟨rfl, rfl⟩ := Prod.mk.inj (Except.ok.inj read)
      exact ⟨_, .emptyList spacing, by rw [skipped, close]; simp⟩
    · obtain ⟨⟨found, after⟩, reads, same⟩ := map_eq_ok_iff.1 read
      obtain ⟨rfl, rfl⟩ := Prod.mk.inj same
      obtain ⟨used, spelled, taken⟩ := h.items reads
      exact ⟨_, .list spacing spelled, by rw [skipped, taken]; simp⟩
  case h_5 tail depth =>
    obtain ⟨gap, spacing, skipped⟩ := exists_spacing tail
    split at read
    · rename_i close
      obtain ⟨rfl, rfl⟩ := Prod.mk.inj (Except.ok.inj read)
      exact ⟨_, .emptyObject spacing, by rw [skipped, close]; simp⟩
    · obtain ⟨⟨found, after⟩, reads, same⟩ := map_eq_ok_iff.1 read
      obtain ⟨rfl, rfl⟩ := Prod.mk.inj same
      obtain ⟨used, entries, spelled, taken, rfl⟩ := h.fields reads
      exact ⟨_, .object spacing spelled, by rw [skipped, taken]; simp⟩
  case h_6 =>
    obtain ⟨used, spelled, rfl⟩ := spellsWord_of_readWord read
    exact ⟨used, .word spelled, rfl⟩

theorem items_step (read : readItems (fuel + 1) depth cs = .ok (items, rest)) :
    ∃ used, SpellsItems depth items used ∧ cs = used ++ rest := by
  obtain ⟨item, after, reads, ends⟩ := readItems_eq_ok_iff.1 read
  obtain ⟨used, spelled, rfl⟩ := h.value reads
  obtain ⟨gap, spacing, skipped⟩ := exists_spacing after
  rcases ends with ⟨close, rfl⟩ | ⟨tail, others, comma, later, rfl⟩
  · exact ⟨_, .last spelled spacing, by rw [skipped, close]; simp⟩
  · obtain ⟨gap', spacing', skipped'⟩ := exists_spacing tail
    obtain ⟨more, spelled', taken⟩ := h.items later
    exact ⟨_, .more spelled spacing spacing' spelled',
      by rw [skipped, comma, skipped', taken]; simp⟩

theorem field_step {field : String × Json} (read : ReadsField fuel depth cs field rest) :
    ∃ used, SpellsField depth field used ∧ cs = used ++ rest := by
  obtain ⟨key, value⟩ := field
  obtain ⟨quoted, after, more, rfl, keyed, colon, reads⟩ := read
  obtain ⟨name, used, rfl, spelledKey, rfl⟩ := spellsText_of_readText keyed
  obtain ⟨gap, spacing, skipped⟩ := exists_spacing after
  obtain ⟨gap', spacing', skipped'⟩ := exists_spacing more
  obtain ⟨used', spelled, taken⟩ := h.value reads
  exact ⟨_, .mk spelledKey spacing spacing' spelled,
    by rw [skipped, colon, skipped', taken]; simp⟩

theorem fields_step (read : readFields (fuel + 1) depth done cs = .ok (fields, rest)) :
    ∃ used entries, SpellsFields depth entries used ∧ cs = used ++ rest ∧
      fields = fieldTable entries done := by
  obtain ⟨field, after, reads, ends⟩ := readFields_eq_ok_iff.1 read
  obtain ⟨used, spelled, rfl⟩ := h.field_step reads
  obtain ⟨gap, spacing, skipped⟩ := exists_spacing after
  rcases ends with ⟨close, rfl⟩ | ⟨tail, comma, later⟩
  · exact ⟨_, [field], .last spelled spacing, by rw [skipped, close]; simp, rfl⟩
  · obtain ⟨gap', spacing', skipped'⟩ := exists_spacing tail
    obtain ⟨more, entries, spelled', taken, rfl⟩ := h.fields later
    exact ⟨_, field :: entries, .more spelled spacing spacing' spelled',
      by rw [skipped, comma, skipped', taken]; simp, rfl⟩

end ReadsSpelled

/-- Nothing is read but what is spelled: every step of the reader takes what the grammar says. -/
theorem readsSpelled (fuel : Nat) : ReadsSpelled fuel := by
  induction fuel with
  | zero =>
    constructor
    all_goals
      intros
      rename_i read
      cases read
  | succ fuel ih => exact ⟨ih.value_step, ih.items_step, ih.fields_step⟩

-- ============================================================================
-- Whole texts
-- ============================================================================

theorem skipSpace_eq_nil {gap : List Char} : skipSpace gap = [] ↔ IsSpacing gap := by
  simp [skipSpace, IsSpacing, List.dropWhile_eq_nil_iff]

/-- Whether a source spells a value, with nothing but spacing around it. -/
def IsTextOf (source : String) (value : Json) : Prop :=
  ∃ before used after, IsSpacing before ∧ Spells nestingLimit value used ∧ IsSpacing after ∧
    source.toList = before ++ (used ++ after)

/-- A source is read as a value if and only if it spells the value. -/
theorem read_eq_ok_iff {source : String} {value : Json} :
    read source = .ok value ↔ IsTextOf source value := by
  rw [read, mapError_eq_ok_iff, readChars, bind_eq_ok_iff]
  constructor
  · rintro ⟨⟨found, rest⟩, reads, h⟩
    obtain ⟨before, spacing, skipped⟩ := exists_spacing source.toList
    obtain ⟨used, spelled, taken⟩ := (readsSpelled _).value reads
    dsimp only at h
    split at h
    · rename_i ended
      obtain rfl := Except.ok.inj h
      exact ⟨before, used, rest, spacing, spelled, skipSpace_eq_nil.1 ended, by rw [skipped, taken]⟩
    · cases h
  · rintro ⟨before, used, after, spacing, spelled, spacing', text⟩
    obtain ⟨c, more, start, space, -⟩ := spelled.start
    have skipped : skipSpace source.toList = used ++ after := by
      rw [text, skipSpace_append spacing, start, List.cons_append, skipSpace_of_cons space]
    have enough : 2 * used.length ≤ 2 * source.toList.length + 2 := by
      rw [text, List.length_append, List.length_append]
      omega
    refine ⟨(value, after), ?_, ?_⟩
    · rw [skipped]
      exact spelled.read enough fun _ => spacing'.endsNumber
    · simp only [skipSpace_eq_nil.2 spacing']

/-- What spells a value goes no further than the value does. -/
theorem Spells.unique {value other : Json} {used used' rest' : List Char}
    (h : Spells depth value used) (h' : Spells depth other used')
    (ends : SpellsWord value used → EndsNumber rest)
    (ends' : SpellsWord other used' → EndsNumber rest') (same : used ++ rest = used' ++ rest') :
    value = other ∧ rest = rest' := by
  have reads := h.read (by omega : _ ≤ 2 * used.length + 2 * used'.length) ends
  have reads' := h'.read (by omega : _ ≤ 2 * used.length + 2 * used'.length) ends'
  rw [same, reads'] at reads
  obtain ⟨rfl, rfl⟩ := Prod.mk.inj (Except.ok.inj reads)
  exact ⟨rfl, rfl⟩

/-- Characters without control characters but those that stand between tokens. -/
def IsClean (cs : List Char) : Prop := ∀ c ∈ cs, isSpace c = true ∨ 0x20 ≤ c.toNat

theorem IsSpacing.isClean {gap : List Char} (spacing : IsSpacing gap) : IsClean gap := fun c hc =>
  .inl (spacing c hc)

theorem isClean_cons {c : Char} (printable : 0x20 ≤ c.toNat) (h : IsClean cs) :
    IsClean (c :: cs) := List.forall_mem_cons.2 ⟨.inr printable, h⟩

theorem isClean_singleton {c : Char} (printable : 0x20 ≤ c.toNat) : IsClean [c] :=
  isClean_cons printable (List.forall_mem_nil _)

theorem IsClean.append (h : IsClean cs) (h' : IsClean rest) : IsClean (cs ++ rest) :=
  List.forall_mem_append.2 ⟨h, h'⟩

mutual

theorem Spells.isClean {depth : Nat} {value : Json} {used : List Char}
    (h : Spells depth value used) : IsClean used := by
  cases h with
  | word spelled => exact fun c hc => .inr (spelled.printable c hc)
  | text spelled =>
    exact isClean_cons (by decide) fun c hc => .inr (spelled.printable c hc)
  | emptyList spacing | emptyObject spacing =>
    exact isClean_cons (by decide) (spacing.isClean.append (isClean_singleton (by decide)))
  | list spacing spelled =>
    exact isClean_cons (by decide) (spacing.isClean.append (SpellsItems.isClean spelled))
  | object spacing spelled =>
    exact isClean_cons (by decide) (spacing.isClean.append (SpellsFields.isClean spelled))
termination_by used.length
decreasing_by all_goals simp only [List.length_cons, List.length_append]; omega

theorem SpellsItems.isClean {depth : Nat} {items : List Json} {used : List Char}
    (h : SpellsItems depth items used) : IsClean used := by
  cases h with
  | last spelled spacing =>
    exact (Spells.isClean spelled).append (spacing.isClean.append (isClean_singleton (by decide)))
  | more spelled spacing spacing' later =>
    exact (Spells.isClean spelled).append (spacing.isClean.append
      (isClean_cons (by decide) (spacing'.isClean.append (SpellsItems.isClean later))))
termination_by used.length
decreasing_by all_goals simp only [List.length_cons, List.length_append]; omega

theorem SpellsField.isClean {depth : Nat} {field : String × Json} {used : List Char}
    (h : SpellsField depth field used) : IsClean used := by
  cases h with
  | mk keyed spacing spacing' spelled =>
    have key : IsClean _ := fun c hc => .inr (keyed.printable c hc)
    exact isClean_cons (by decide) (key.append (spacing.isClean.append
      (isClean_cons (by decide) (spacing'.isClean.append (Spells.isClean spelled)))))
termination_by used.length
decreasing_by all_goals simp only [List.length_cons, List.length_append]; omega

theorem SpellsFields.isClean {depth : Nat} {fields : List (String × Json)} {used : List Char}
    (h : SpellsFields depth fields used) : IsClean used := by
  cases h with
  | last spelled spacing =>
    exact (SpellsField.isClean spelled).append
      (spacing.isClean.append (isClean_singleton (by decide)))
  | more spelled spacing spacing' later =>
    exact (SpellsField.isClean spelled).append (spacing.isClean.append
      (isClean_cons (by decide) (spacing'.isClean.append (SpellsFields.isClean later))))
termination_by used.length
decreasing_by all_goals simp only [List.length_cons, List.length_append]; omega

end

/-- The fields of an object end in its closing brace. -/
theorem SpellsFields.finish {fields : List (String × Json)} {used : List Char}
    (h : SpellsFields depth fields used) : ∃ body, used = body ++ ['\x7d'] := by
  induction fields generalizing used with
  | nil => cases h
  | cons field fields ih =>
    cases h with
    | last => exact ⟨_, (List.append_assoc _ _ _).symm⟩
    | @more _ _ used before after _ _ _ _ _ later =>
      obtain ⟨body, rfl⟩ := ih later
      exact ⟨used ++ (before ++ ',' :: (after ++ body)), by simp⟩

/-- An object stands in braces, and so is no word. -/
theorem Spells.braces {fields : Table Json} {used : List Char}
    (h : Spells depth (Json.object fields) used) :
    ¬SpellsWord (Json.object fields) used ∧ ∃ body, used = '\x7b' :: (body ++ ['\x7d']) := by
  have notWord : ¬SpellsWord (Json.object fields) used := by
    intro word
    cases word with
    | number number => cases number
  refine ⟨notWord, ?_⟩
  cases h with
  | word spelled => exact absurd spelled notWord
  | @emptyObject _ gap => exact ⟨gap, rfl⟩
  | @object _ gap used entries _ spelled =>
    obtain ⟨body, rfl⟩ := spelled.finish
    exact ⟨gap ++ body, by rw [List.append_assoc]⟩

/-- The characters of an object, cut off before their end, are no text of anything. -/
theorem Spells.not_spells_of_cut {fields : Table Json} {start rest : List Char}
    (h : Spells depth (Json.object fields) (start ++ rest)) (cut : rest ≠ []) (value : Json) :
    ¬Spells depth value start := by
  intro h'
  obtain ⟨notWord, body, same⟩ := h.braces
  obtain ⟨c, more, rfl, -⟩ := h'.start
  obtain ⟨rfl, -⟩ := List.cons.inj same
  have notWord' : ¬SpellsWord value ('\x7b' :: more) := by
    intro word
    obtain ⟨_, _, start, -, mark⟩ := word.start
    exact mark (by simp [← (List.cons.inj start).1])
  have whole := h.unique h' (fun word => absurd word notWord) (fun word => absurd word notWord')
    (List.append_nil _)
  exact cut whole.2.symm

theorem Spells.not_isTextOf_of_cut {fields : Table Json} {start rest : List Char}
    (h : Spells nestingLimit (Json.object fields) (start ++ rest)) (cut : rest ≠ [])
    (value : Json) : ¬IsTextOf (String.ofList start) value := by
  rintro ⟨before, used, after, spacing, spelled, -, text⟩
  rw [String.toList_ofList] at text
  subst text
  cases before with
  | cons d before =>
    obtain ⟨-, body, same⟩ := h.braces
    have space := spacing d List.mem_cons_self
    rw [(List.cons.inj same).1] at space
    cases space
  | nil =>
    rw [List.nil_append, List.append_assoc] at h
    exact h.not_spells_of_cut (by simp [cut]) value spelled

end HomeAutomation.Json
