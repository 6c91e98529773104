/-
  HomeAutomation.Proofs.Occurrence

  First and last occurrences in a list.  Without its repetitions a list stands in
  the order of first occurrences, `List.eraseDups`, or of last ones, `List.dedup`;
  both are known by what an element does that is added at the end.
-/

import Mathlib.Data.List.Dedup
import Mathlib.Data.List.Induction

namespace HomeAutomation

section FirstOccurrences

variable {α : Type} [BEq α] [LawfulBEq α] {l : List α}

/-- What is added at the end occurs first there, unless it has occurred. -/
theorem eraseDups_concat (l : List α) (a : α) :
    (l ++ [a]).eraseDups = if a ∈ l then l.eraseDups else l.eraseDups ++ [a] := by
  rw [List.eraseDups_append]
  split
  · rename_i known
    simp [List.removeAll, known]
  · rename_i unknown
    simp [List.removeAll, unknown, List.eraseDups_cons]

theorem nodup_eraseDups (l : List α) : l.eraseDups.Nodup := by
  induction l using List.reverseRecOn with
  | nil => exact .nil
  | append_singleton l a ih =>
    rw [eraseDups_concat]
    split
    · exact ih
    · rename_i unknown
      refine List.nodup_append.2 ⟨ih, by simp, fun b hb c hc => ?_⟩
      obtain rfl : c = a := by simpa using hc
      rintro rfl
      exact unknown (List.mem_eraseDups.1 hb)

theorem eraseDups_eq_self (nodup : l.Nodup) : l.eraseDups = l := by
  induction l using List.reverseRecOn with
  | nil => rfl
  | append_singleton l a ih =>
    obtain ⟨former, -, apart⟩ := List.nodup_append.1 nodup
    have unknown : a ∉ l := fun h => apart a h a (List.mem_singleton_self a) rfl
    rw [eraseDups_concat, if_neg unknown, ih former]

end FirstOccurrences

section LastOccurrences

variable {α β : Type} [DecidableEq α] {l : List α}

/-- What is added at the end occurs last there. -/
theorem dedup_concat (l : List α) (a : α) :
    (l ++ [a]).dedup = l.dedup.filter (fun b => decide (b ≠ a)) ++ [a] := by
  induction l with
  | nil => rfl
  | cons b rest ih =>
    rw [List.cons_append]
    by_cases again : b ∈ rest ++ [a]
    · rw [List.dedup_cons_of_mem again, ih]
      by_cases known : b ∈ rest
      · rw [List.dedup_cons_of_mem known]
      · obtain rfl : b = a := by simpa [known] using again
        rw [List.dedup_cons_of_notMem known, List.filter_cons, if_neg (by simp)]
    · obtain ⟨unknown, other⟩ : b ∉ rest ∧ b ≠ a := by simpa using again
      rw [List.dedup_cons_of_notMem again, List.dedup_cons_of_notMem unknown, ih,
        List.filter_cons, if_pos (by simpa using other)]
      rfl

/-- First and last occurrences are of the same. -/
theorem eraseDups_perm_dedup (l : List α) : l.eraseDups.Perm l.dedup :=
  (List.perm_ext_iff_of_nodup (nodup_eraseDups l) l.nodup_dedup).2 fun a => by
    rw [List.mem_eraseDups, List.mem_dedup]

/-- To leave out what gives nothing changes nothing. -/
theorem filterMap_filter_ne {f : α → Option β} {a : α} (nothing : f a = none) (l : List α) :
    (l.filter fun b => decide (b ≠ a)).filterMap f = l.filterMap f := by
  rw [List.filterMap_filter]
  refine List.filterMap_congr fun b _ => ?_
  by_cases h : b = a
  · subst h
    simp [nothing]
  · simp [h]

/-- Where all that gives something occurs once, first and last occurrences give the same. -/
theorem filterMap_eraseDups_eq_dedup {f : α → Option β}
    (once : ∀ a ∈ l, (f a).isSome = true → l.count a = 1) :
    l.eraseDups.filterMap f = l.dedup.filterMap f := by
  induction l using List.reverseRecOn with
  | nil => rfl
  | append_singleton l a ih =>
    have former : ∀ b ∈ l, (f b).isSome = true → l.count b = 1 := by
      intro b hb something
      have total := once b (List.mem_append_left _ hb) something
      have some_former := List.count_pos_iff.2 hb
      rw [List.count_append] at total
      omega
    have kept : a ∈ l → f a = none := by
      intro known
      by_contra something
      have total := once a (List.mem_append_left _ known) (Option.isSome_iff_ne_none.2 something)
      have some_former := List.count_pos_iff.2 known
      rw [List.count_append, List.count_singleton_self] at total
      omega
    rw [eraseDups_concat, dedup_concat, List.filterMap_append]
    split
    · rename_i known
      rw [filterMap_filter_ne (kept known), ih former]
      simp [kept known]
    · rename_i unknown
      have untouched : l.dedup.filter (fun b => decide (b ≠ a)) = l.dedup := by
        refine List.filter_eq_self.2 fun b hb => decide_eq_true ?_
        rintro rfl
        exact unknown (List.mem_dedup.1 hb)
      rw [untouched, List.filterMap_append, ih former]

end LastOccurrences

end HomeAutomation
