/-
  HomeAutomation.Proofs.Table

  Tables without repeated names.  There a name has one value, erasing it takes
  out one entry, and a name that is not entered comes last when it is set.
-/

import Mathlib.Data.List.Nodup
import HomeAutomation.Table

namespace HomeAutomation

namespace Table

variable {β : Type} {table : Table β} {name : String} {value : β}

theorem mem_of_get? (h : table.get? name = some value) : (name, value) ∈ table := by
  induction table with
  | nil => cases h
  | cons entry rest ih =>
    obtain ⟨key, held⟩ := entry
    by_cases hk : key = name
    · subst hk
      obtain rfl : held = value := by simpa [get?] using h
      exact List.mem_cons_self
    · exact List.mem_cons_of_mem _ (ih (by simpa [get?, hk] using h))

theorem eq_of_mem {other : β} (nodup : table.names.Nodup) (h : (name, value) ∈ table)
    (h' : (name, other) ∈ table) : value = other :=
  congrArg Prod.snd (List.inj_on_of_nodup_map nodup h h' rfl)

theorem get?_of_mem (nodup : table.names.Nodup) (h : (name, value) ∈ table) :
    table.get? name = some value := by
  cases found : table.get? name with
  | some other => rw [eq_of_mem nodup h (mem_of_get? found)]
  | none =>
    induction table with
    | nil => cases h
    | cons entry rest ih =>
      obtain ⟨key, held⟩ := entry
      by_cases hk : key = name
      · simp [get?, hk] at found
      · rcases List.mem_cons.1 h with same | later
        · exact absurd (congrArg Prod.fst same).symm hk
        · exact ih (List.nodup_cons.1 nodup).2 later (by simpa [get?, hk] using found)

theorem not_mem_names (h : table.has name = false) : name ∉ table.names := by
  induction table with
  | nil => simp [names]
  | cons entry rest ih =>
    obtain ⟨key, held⟩ := entry
    by_cases hk : key = name
    · simp [has, get?, hk] at h
    · have hrest : has rest name = false := by simpa [has, get?, hk] using h
      simpa [names, Ne.symm hk] using ih hrest

theorem has_iff_mem_names : table.has name = true ↔ name ∈ table.names := by
  constructor
  · intro h
    obtain ⟨value, found⟩ := Option.isSome_iff_exists.1 h
    exact List.mem_map_of_mem (mem_of_get? found)
  · intro h
    by_contra absent
    exact not_mem_names (Bool.eq_false_iff.2 absent) h

/-- A name that is not entered comes last. -/
theorem set_of_not_has (h : table.has name = false) (value : β) :
    table.set name value = table ++ [(name, value)] := by
  induction table with
  | nil => rfl
  | cons entry rest ih =>
    obtain ⟨key, held⟩ := entry
    by_cases hk : key = name
    · simp [has, get?, hk] at h
    · have hrest : has rest name = false := by simpa [has, get?, hk] using h
      simp [set, hk, ih hrest]

theorem mem_of_mem_set {entry : String × β} (h : entry ∈ table.set name value) :
    entry = (name, value) ∨ entry ∈ table := by
  induction table with
  | nil => exact .inl (List.mem_singleton.1 h)
  | cons first rest ih =>
    obtain ⟨key, held⟩ := first
    unfold set at h
    split at h
    · rename_i same
      rcases List.mem_cons.1 h with rfl | h
      · exact .inl (same ▸ rfl)
      · exact .inr (List.mem_cons_of_mem _ h)
    · rcases List.mem_cons.1 h with rfl | h
      · exact .inr List.mem_cons_self
      · exact (ih h).imp_right (List.mem_cons_of_mem _)

theorem erase_of_not_has (h : table.has name = false) : table.erase name = table := by
  refine List.filter_eq_self.2 fun entry he => ?_
  simp only [ne_eq, decide_eq_true_eq]
  rintro rfl
  exact not_mem_names h (List.mem_map_of_mem he)

theorem has_erase (table : Table β) (name : String) : (table.erase name).has name = false := by
  refine Bool.eq_false_iff.2 fun h => ?_
  obtain ⟨value, held⟩ := Option.isSome_iff_exists.1 h
  have kept := (List.mem_filter.1 (mem_of_get? held)).2
  simp at kept

theorem erase_erase (table : Table β) (name : String) :
    (table.erase name).erase name = table.erase name :=
  erase_of_not_has (has_erase table name)

theorem erase_append (table more : Table β) (name : String) :
    erase (table ++ more) name = table.erase name ++ more.erase name := List.filter_append ..

theorem erase_map {γ : Type} (f : β → γ) (table : Table β) (name : String) :
    (table.erase name).map (fun entry => (entry.1, f entry.2))
      = erase (table.map fun entry => (entry.1, f entry.2)) name := by
  unfold erase
  rw [List.filter_map]
  rfl

/-- Entries that go by the names they are given for lose a name by leaving it out. -/
theorem erase_filterMap {f : String → Option (String × β)}
    (named : ∀ id entry, f id = some entry → entry.1 = id) (ids : List String) (name : String) :
    erase (ids.filterMap f) name = (ids.filter fun id => decide (id ≠ name)).filterMap f := by
  unfold erase
  rw [List.filter_filterMap, List.filterMap_filter]
  refine List.filterMap_congr fun id _ => ?_
  cases h : f id with
  | none => simp
  | some entry => simp [Option.filter, named id entry h]

theorem nodup_names_erase (nodup : table.names.Nodup) (name : String) :
    (table.erase name).names.Nodup :=
  (List.filter_sublist.map Prod.fst).nodup nodup

theorem get?_append (table more : Table β) (name : String) :
    get? (table ++ more) name = (table.get? name).or (more.get? name) := by
  induction table with
  | nil => rfl
  | cons entry rest ih =>
    obtain ⟨key, held⟩ := entry
    by_cases hk : key = name
    · simp [get?, hk]
    · simpa [get?, hk] using ih

theorem get?_erase (table : Table β) (name other : String) :
    (table.erase name).get? other = if other = name then none else table.get? other := by
  induction table with
  | nil => simp [erase]
  | cons entry rest ih =>
    obtain ⟨key, held⟩ := entry
    unfold erase at ih ⊢
    by_cases hk : key = name
    · rw [List.filter_cons, if_neg (by simp [hk]), ih]
      split
      · rfl
      · rename_i ho
        simp [get?, hk, Ne.symm ho]
    · rw [List.filter_cons, if_pos (by simp [hk]), get?, get?, ih]
      by_cases ho : key = other
      · rw [if_pos ho, if_neg (ho ▸ hk), if_pos ho]
      · rw [if_neg ho, if_neg ho]

/-- Tables without repeated names have the same entries exactly if names have the same values. -/
theorem perm_iff_get?_eq {other : Table β} (nodup : table.names.Nodup)
    (nodup' : other.names.Nodup) :
    table.Perm other ↔ ∀ name, table.get? name = other.get? name := by
  have get?_eq_some_iff {t : Table β} (h : t.names.Nodup) (name : String) (value : β) :
      t.get? name = some value ↔ (name, value) ∈ t := ⟨mem_of_get?, get?_of_mem h⟩
  rw [List.perm_ext_iff_of_nodup nodup.of_map nodup'.of_map]
  constructor
  · intro same name
    refine Option.ext fun value => ?_
    rw [get?_eq_some_iff nodup, get?_eq_some_iff nodup', same]
  · rintro same ⟨name, value⟩
    rw [← get?_eq_some_iff nodup, ← get?_eq_some_iff nodup', same]

end Table

end HomeAutomation
