/-
  HomeAutomation.Proofs.Sensor.Readings

  What the readings of a snapshot are.  A snapshot is looked at as the list of its
  values in document order, each with the key under which and the location for
  which it stands there, as it is spelled.  For every pair of a metric and
  a location that such an entry is about there is one reading.  Its value is that of
  the last entry under `temp`, or of the last of all if there is none; its place is
  that of the first entry about the pair.  As a metric has one key besides `temp`,
  what counts for a pair does not depend on the order of the keys.
-/

import Mathlib.Data.List.Find
import HomeAutomation.Proofs.Occurrence
import HomeAutomation.Proofs.Sensor.Snapshot
import HomeAutomation.Proofs.Table

namespace HomeAutomation

namespace Snapshot

-- ============================================================================
-- Entries
-- ============================================================================

/-- The known keys of snapshots, with the metrics whose values stand under them. -/
def metricKeys : List (String × String) :=
  [("temp", "temperature"), ("temperature", "temperature"), ("humidity", "humidity"),
   ("motion", "motion")]

/-- A value of a snapshot, with the key and the location that it stands there for. -/
structure Entry where
  key : String
  location : String
  value : Json

/-- The values under one key: those of an object, by location; nothing else has any. -/
def entriesUnder (key : String) : Json → List Entry
  | .object items => items.map fun (location, value) => ⟨key, location, value⟩
  | _ => []

/-- The values of a snapshot in document order. -/
def entries (fields : Table Json) : List Entry :=
  fields.flatMap fun (key, values) => entriesUnder key values

/-- The pair that an entry is about: the metric of its key, and its location in normal form. -/
def Entry.about? (e : Entry) : Option (String × String) :=
  (metricKeys.lookup e.key).map (·, Text.normalize e.location)

/-- The entry that counts for a pair: the last about it under `temp`, or the last of all about it
    if there is none. -/
def decisive? (es : List Entry) (pair : String × String) : Option Entry :=
  (es.reverse.find? fun e => e.about? = some pair && e.key = "temp").or
    (es.reverse.find? fun e => e.about? = some pair)

/-- An entry as it is flattened. -/
def Entry.ranked? (e : Entry) : Option Ranked :=
  (metricOfKey? e.key).map fun (metric, rank) =>
    ⟨rank, ⟨metric, Text.normalize e.location, e.value⟩⟩

theorem occurrences_eq (fields : Table Json) :
    occurrences fields = (entries fields).filterMap Entry.ranked? := by
  unfold occurrences entries
  rw [List.filterMap_flatMap]
  refine List.flatMap_congr fun ⟨key, values⟩ _ => ?_
  unfold entriesUnder
  cases known : metricOfKey? key <;> cases values <;>
    simp [Entry.ranked?, known, List.filterMap_map, Function.comp_def]

/-- The keys of one metric are told apart by rank. -/
theorem metricOfKey?_eq (key : String) :
    metricOfKey? key
      = (metricKeys.lookup key).map fun metric => (metric, if key = "temp" then 1 else 0) := by
  unfold metricOfKey?
  split
  · rfl
  · rfl
  · rfl
  · rfl
  · rename_i temp temperature humidity motion
    simp [metricKeys, List.lookup_cons, beq_eq_false_iff_ne.2 temp,
      beq_eq_false_iff_ne.2 temperature, beq_eq_false_iff_ne.2 humidity,
      beq_eq_false_iff_ne.2 motion]

/-- A key that is not `temp` is the name of its metric. -/
theorem key_eq_of_lookup {key metric : String} (known : metricKeys.lookup key = some metric)
    (other : key ≠ "temp") : key = metric := by
  simp only [metricKeys, List.lookup_cons] at known
  split at known
  · exact absurd (eq_of_beq ‹_›) other
  · split at known
    · simp_all
    · split at known
      · simp_all
      · split at known <;> simp_all

theorem about?_eq (e : Entry) : e.about? = e.ranked?.map (·.reading.key) := by
  unfold Entry.about? Entry.ranked?
  rw [metricOfKey?_eq, Option.map_map, Option.map_map]
  rfl

theorem rank_of_ranked? {e : Entry} {o : Ranked} (h : e.ranked? = some o) :
    o.rank = if e.key = "temp" then 1 else 0 := by
  unfold Entry.ranked? at h
  rw [metricOfKey?_eq, Option.map_map] at h
  obtain ⟨metric, -, rfl⟩ := Option.map_eq_some_iff.1 h
  rfl

-- ============================================================================
-- What counts
-- ============================================================================

/-- Whether some entries have one about a pair under `temp`. -/
def isHeated (es : List Entry) (pair : String × String) : Bool :=
  es.any fun e => e.about? = some pair && e.key = "temp"

theorem decisive?_eq_none_iff {es : List Entry} {pair : String × String} :
    decisive? es pair = none ↔ ∀ e ∈ es, e.about? ≠ some pair := by
  unfold decisive?
  rw [Option.or_eq_none_iff, List.find?_eq_none, List.find?_eq_none]
  constructor
  · rintro ⟨-, none⟩ e he
    simpa using none e (List.mem_reverse.2 he)
  · intro none
    refine ⟨fun e he => ?_, fun e he => ?_⟩ <;> simp [none e (List.mem_reverse.1 he)]

/-- What counts for a pair is about it, and under `temp` if anything is. -/
theorem of_decisive? {es : List Entry} {pair : String × String} {e : Entry}
    (h : decisive? es pair = some e) :
    e.about? = some pair ∧ (e.key = "temp" ↔ isHeated es pair = true) := by
  unfold decisive? at h
  rcases Option.or_eq_some_iff.1 h with found | ⟨none, found⟩
  · have both := List.find?_some found
    have mem := List.mem_reverse.1 (List.mem_of_find?_eq_some found)
    rw [Bool.and_eq_true, decide_eq_true_iff, decide_eq_true_iff] at both
    refine ⟨both.1, iff_of_true both.2 (List.any_eq_true.2 ⟨e, mem, ?_⟩)⟩
    simp [both]
  · have about : e.about? = some pair := by simpa using List.find?_some found
    have mem := List.mem_reverse.1 (List.mem_of_find?_eq_some found)
    rw [List.find?_eq_none] at none
    refine ⟨about, iff_of_false (fun temp => ?_) fun heated => ?_⟩
    · exact none e (List.mem_reverse.2 mem) (by simp [about, temp])
    · obtain ⟨d, hd, both⟩ := List.any_eq_true.1 heated
      exact none d (List.mem_reverse.2 hd) both

/-- The last of some entries counts for its pair, unless it gives way to one under `temp`. -/
theorem decisive?_concat (es : List Entry) (e : Entry) (pair : String × String) :
    decisive? (es ++ [e]) pair
      = if e.about? = some pair ∧ (isHeated es pair = true → e.key = "temp") then some e
        else decisive? es pair := by
  unfold decisive?
  rw [List.reverse_concat, List.find?_cons, List.find?_cons]
  by_cases about : e.about? = some pair
  · by_cases temp : e.key = "temp"
    · simp [about, temp]
    · cases heated : isHeated es pair with
      | true =>
        obtain ⟨d, hd, both⟩ := List.any_eq_true.1 heated
        have found : (es.reverse.find? fun e => e.about? = some pair && e.key = "temp").isSome :=
          List.find?_isSome.2 ⟨d, List.mem_reverse.2 hd, both⟩
        obtain ⟨last, hlast⟩ := Option.isSome_iff_exists.1 found
        simp [about, temp, hlast]
      | false =>
        have none : (es.reverse.find? fun e => e.about? = some pair && e.key = "temp") = none :=
          List.find?_eq_none.2 fun d hd both =>
            (List.any_eq_false.1 heated) d (List.mem_reverse.1 hd) both
        simp [about, temp, none]
  · simp [about]

-- ============================================================================
-- Entering
-- ============================================================================

/-- An occurrence is entered for its pair, unless what is held there has a higher rank. -/
theorem find?_enter (held : List Ranked) (new : Ranked) (pair : String × String) :
    (enter held new).find? (·.reading.key = pair)
      = if new.reading.key = pair then
          match held.find? (·.reading.key = pair) with
          | some first => some (if new.rank < first.rank then first else new)
          | none => some new
        else held.find? (·.reading.key = pair) := by
  induction held with
  | nil => by_cases about : new.reading.key = pair <;> simp [enter, about]
  | cons first rest ih =>
    unfold enter
    by_cases same : first.reading.key = new.reading.key
    · rw [if_pos same]
      by_cases about : new.reading.key = pair
      · split <;> simp [same.trans about, *]
      · have other : first.reading.key ≠ pair := same ▸ about
        split <;> simp [about, other]
    · rw [if_neg same, List.find?_cons, List.find?_cons]
      by_cases about : first.reading.key = pair
      · have other : new.reading.key ≠ pair := fun h => same (about.trans h.symm)
        simp [about, other]
      · simp only [about, decide_false]
        exact ih

/-- What some entries have given when they have been entered one after the other. -/
def held (es : List Entry) : List Ranked := (es.filterMap Entry.ranked?).foldl enter []

theorem held_concat (es : List Entry) (e : Entry) :
    held (es ++ [e]) = match e.ranked? with
      | some new => enter (held es) new
      | none => held es := by
  unfold held
  rw [List.filterMap_append, List.foldl_append]
  cases ranked : e.ranked? <;> simp [ranked]

/-- The pairs stand in the order in which entries are first about them. -/
theorem keys_held (es : List Entry) :
    (held es).map (·.reading.key) = (es.filterMap Entry.about?).eraseDups := by
  induction es using List.reverseRecOn with
  | nil => rfl
  | append_singleton es e ih =>
    have about := about?_eq e
    rw [held_concat, List.filterMap_append]
    cases ranked : e.ranked? with
    | none =>
      rw [ranked] at about
      simpa [about] using ih
    | some new =>
      rw [ranked] at about
      have single : [e].filterMap Entry.about? = [new.reading.key] := by simp [about]
      rw [single, eraseDups_concat, keys_enter, ih]
      simp only [List.mem_eraseDups]

/-- What is held for a pair is the entry that counts for it. -/
theorem find?_held (es : List Entry) (pair : String × String) :
    (held es).find? (·.reading.key = pair) = (decisive? es pair).bind Entry.ranked? := by
  induction es using List.reverseRecOn with
  | nil => rfl
  | append_singleton es e ih =>
    have about := about?_eq e
    rw [held_concat, decisive?_concat]
    cases ranked : e.ranked? with
    | none =>
      rw [ranked] at about
      simpa [about] using ih
    | some new =>
      rw [ranked] at about
      dsimp only
      rw [find?_enter, ih, about]
      by_cases same : new.reading.key = pair
      · cases former : decisive? es pair with
        | none =>
          have cold : isHeated es pair = false := List.any_eq_false.2 fun d hd => by
            simp [decisive?_eq_none_iff.1 former d hd]
          simp [same, cold, ranked]
        | some d =>
          obtain ⟨hd, heated⟩ := of_decisive? former
          rw [about?_eq] at hd
          obtain ⟨first, hfirst, -⟩ := Option.map_eq_some_iff.1 hd
          have rank := rank_of_ranked? ranked
          have rank' := rank_of_ranked? hfirst
          by_cases temp : e.key = "temp" <;> by_cases temp' : d.key = "temp" <;>
            simp_all
      · simp [same]

-- ============================================================================
-- The order of the keys
-- ============================================================================

theorem key_of_mem_entriesUnder {key : String} {values : Json} {e : Entry}
    (h : e ∈ entriesUnder key values) : e.key = key := by
  unfold entriesUnder at h
  split at h
  · obtain ⟨_, -, rfl⟩ := List.mem_map.1 h
    rfl
  · cases h

theorem filter_entriesUnder (key other : String) (values : Json) :
    (entriesUnder other values).filter (·.key = key)
      = if other = key then entriesUnder other values else [] := by
  split
  · rename_i same
    exact List.filter_eq_self.2 fun e he => by simp [key_of_mem_entriesUnder he, same]
  · rename_i apart
    exact List.filter_eq_nil_iff.2 fun e he => by simp [key_of_mem_entriesUnder he, apart]

/-- The entries under a key are those of the value that the key has. -/
theorem filter_entries {fields : Table Json} (nodup : fields.names.Nodup) (key : String) :
    (entries fields).filter (·.key = key)
      = ((fields.get? key).map (entriesUnder key)).getD [] := by
  induction fields with
  | nil => rfl
  | cons field rest ih =>
    obtain ⟨name, values⟩ := field
    obtain ⟨once, nodup⟩ := List.nodup_cons.1 nodup
    have split : entries ((name, values) :: rest) = entriesUnder name values ++ entries rest := rfl
    rw [split, List.filter_append, filter_entriesUnder, ih nodup, Table.get?]
    by_cases same : name = key
    · have absent : Table.get? rest key = none := by
        by_contra present
        obtain ⟨value, found⟩ := Option.ne_none_iff_exists'.1 present
        exact once (same ▸ List.mem_map.2 ⟨_, Table.mem_of_get? found, rfl⟩)
      simp [same, absent]
    · simp [same]

/-- What counts for a pair stands under `temp`, or else under the name of the metric. -/
theorem decisive?_eq (es : List Entry) (pair : String × String) :
    decisive? es pair
      = ((es.filter (·.key = "temp")).reverse.find? (·.about? = some pair)).or
          ((es.filter (·.key = pair.1)).reverse.find? (·.about? = some pair)) := by
  unfold decisive?
  rw [← List.filter_reverse, ← List.filter_reverse, List.find?_filter, List.find?_filter]
  have first : es.reverse.find? (fun e => e.about? = some pair && e.key = "temp")
      = es.reverse.find? fun e => decide (decide (e.key = "temp") = true ∧
          decide (e.about? = some pair) = true) :=
    List.find?_congr fun e _ => by simp [Bool.and_comm]
  rw [← first]
  cases none : es.reverse.find? fun e => e.about? = some pair && e.key = "temp" with
  | some e => rfl
  | none =>
    refine List.find?_congr fun e he => ?_
    by_cases about : e.about? = some pair
    · have other : e.key ≠ "temp" := fun temp =>
        List.find?_eq_none.1 none e he (by simp [about, temp])
      obtain ⟨metric, known, rfl⟩ := Option.map_eq_some_iff.1 about
      simp [about, key_eq_of_lookup known other]
    · simp [about]

/-- What counts for a pair does not depend on the order of the keys. -/
theorem decisive?_perm {fields other : Table Json} (nodup : fields.names.Nodup)
    (perm : fields.Perm other) (pair : String × String) :
    decisive? (entries other) pair = decisive? (entries fields) pair := by
  have nodup' : other.names.Nodup := (perm.map Prod.fst).nodup_iff.1 nodup
  have same := (Table.perm_iff_get?_eq nodup nodup').1 perm
  rw [decisive?_eq, decisive?_eq, filter_entries nodup, filter_entries nodup, filter_entries nodup',
    filter_entries nodup', same, same]

-- ============================================================================
-- Readings
-- ============================================================================

/-- The readings of a snapshot that is an object. -/
def flattened (fields : Table Json) : List SensorReading :=
  (held (entries fields)).map (·.reading)

theorem readings_object (fields : Table Json) :
    Snapshot.readings (.object fields) = .ok (flattened fields) := by
  rw [Snapshot.readings, occurrences_eq]
  rfl

theorem keys_flattened (fields : Table Json) :
    (flattened fields).map (·.key) = ((entries fields).filterMap Entry.about?).eraseDups := by
  rw [← keys_held, flattened, List.map_map]
  rfl

theorem nodup_keys_flattened (fields : Table Json) : ((flattened fields).map (·.key)).Nodup := by
  rw [keys_flattened]
  exact nodup_eraseDups _

/-- A reading is about a pair if it is what is flattened of the entry that counts for it. -/
theorem mem_flattened_iff {fields : Table Json} {r : SensorReading} :
    r ∈ flattened fields ↔
      ∃ e, decisive? (entries fields) r.key = some e ∧ e.ranked?.map (·.reading) = some r := by
  have found : (flattened fields).find? (·.key = r.key)
      = (decisive? (entries fields) r.key).bind fun e => e.ranked?.map (·.reading) := by
    have := find?_held (entries fields) r.key
    rw [flattened, List.find?_map]
    simpa [Function.comp_def, Option.map_bind] using congrArg (Option.map (·.reading)) this
  rw [← Option.bind_eq_some_iff, ← found]
  constructor
  · intro h
    obtain ⟨first, hfirst⟩ := Option.isSome_iff_exists.1
      (List.find?_isSome.2 ⟨r, h, by simp⟩ : ((flattened fields).find? (·.key = r.key)).isSome)
    have same : first.key = r.key := by simpa using List.find?_some hfirst
    rw [hfirst, List.inj_on_of_nodup_map (nodup_keys_flattened fields)
      (List.mem_of_find?_eq_some hfirst) h same]
  · exact List.mem_of_find?_eq_some

/-- A snapshot has one reading for each pair that it says something about, in the order in which
    the pairs occur first, with the value that counts for the pair; in what order the keys stand
    is all the same to the readings but for their places. -/
theorem one_reading_each (fields : Table Json) :
    ∃ readings, Snapshot.readings (.object fields) = .ok readings ∧
      (∀ pair, (readings.map (·.key)).count pair
        = if ∃ e ∈ entries fields, e.about? = some pair then 1 else 0) ∧
      readings.map (·.key) = ((entries fields).filterMap Entry.about?).eraseDups ∧
      (∀ r ∈ readings, (decisive? (entries fields) r.key).map (·.value) = some r.value) ∧
      ∀ other : Table Json, fields.names.Nodup → fields.Perm other →
        ∃ readings', Snapshot.readings (.object other) = .ok readings' ∧
          readings.Perm readings' := by
  refine ⟨flattened fields, readings_object fields, ?once, keys_flattened fields, ?value, ?order⟩
  case once =>
    intro pair
    rw [(nodup_keys_flattened fields).count, keys_flattened]
    simp only [List.mem_eraseDups, List.mem_filterMap]
  case value =>
    intro r hr
    obtain ⟨e, counts, flat⟩ := mem_flattened_iff.1 hr
    rw [counts, Option.map_some]
    obtain ⟨o, ranked, rfl⟩ := Option.map_eq_some_iff.1 flat
    obtain ⟨_, -, rfl⟩ := Option.map_eq_some_iff.1 ranked
    rfl
  case order =>
    intro other distinct perm
    refine ⟨flattened other, readings_object other, ?_⟩
    rw [List.perm_ext_iff_of_nodup (nodup_keys_flattened fields).of_map
      (nodup_keys_flattened other).of_map]
    intro r
    rw [mem_flattened_iff, mem_flattened_iff, decisive?_perm distinct perm]

/-- Temperatures of a kitchen under both keys and in several spellings, with one of a hall. -/
def warmKitchen : Table Json :=
  [("temperature", .object [("Kitchen", .integer 21), ("hall", .integer 19)]),
   ("lux", .object [("kitchen", .integer 7)]), ("motion", .null),
   ("temp", .object [("KITCHEN", .integer 22), (" kitchen ", .integer 23)])]

/-- The kitchen is read once, with the last value under `temp`, whichever key comes first. -/
theorem one_reading_each_warmKitchen :
    warmKitchen.names.Nodup ∧ warmKitchen.Perm warmKitchen.reverse ∧
      ∃ readings readings', Snapshot.readings (.object warmKitchen) = .ok readings ∧
        Snapshot.readings (.object warmKitchen.reverse) = .ok readings' ∧
        readings.map (fun r => (r.location, r.value.integer?))
          = [("kitchen", some 23), ("hall", some 19)] ∧
        readings.Perm readings' := by
  have distinct : warmKitchen.names.Nodup := by decide
  have perm : warmKitchen.Perm warmKitchen.reverse := (List.reverse_perm _).symm
  obtain ⟨readings, read, -, -, -, order⟩ := one_reading_each warmKitchen
  obtain ⟨readings', read', same⟩ := order warmKitchen.reverse distinct perm
  have values : (flattened warmKitchen).map (fun r => (r.location, r.value.integer?))
      = [("kitchen", some 23), ("hall", some 19)] := by decide +kernel
  have flat : flattened warmKitchen = readings :=
    Except.ok.inj ((readings_object warmKitchen).symm.trans read)
  exact ⟨distinct, perm, readings, readings', read, read', flat ▸ values, same⟩

end Snapshot

end HomeAutomation
