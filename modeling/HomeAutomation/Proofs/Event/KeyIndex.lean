/-
  HomeAutomation.Proofs.Event.KeyIndex

  The registry holds its events twice, in the list of all of them and in the
  index by what they watch, and every change updates both.  Whatever is done with
  a registry, in any order and with any events it ever made, the two views
  agree and no two registered events have equal conditions.

  An event stays known after its removal, and by then another one may
  stand for an equal condition.  To remove the old event once more must not touch
  the new one: this is where it matters that equal conditions have one event.
  A threshold that is no number equals none, so that every request for it gets
  an event of its own.
-/

import Mathlib.Data.List.Basic
import HomeAutomation.Proofs.Event.Registry
import HomeAutomation.Proofs.Rule.Sameness

namespace HomeAutomation

namespace EventRegistry

variable {α : Type}

-- ============================================================================
-- Operations
-- ============================================================================

/-- What can be done with a registry and the events it has made. -/
inductive Operation (α : Type)
  | getOrCreate (condition : Condition)
  | attach (id : Nat) (action : α)
  | detach (id : Nat) (action : α)
  | remove (id : Nat)
  | prune (id : Nat)
  deriving DecidableEq, Repr

section Operations

variable [DecidableEq α]

/-- The registry after an operation. A condition that is refused changes nothing. -/
def perform (r : EventRegistry α) : Operation α → EventRegistry α
  | .getOrCreate c =>
    match r.getOrCreate c with
    | .ok (r', _, _) => r'
    | .error _ => r
  | .attach id action => r.attach id action
  | .detach id action => (r.detach id action).1
  | .remove id => (r.remove id).1
  | .prune id => (r.prune id).1

/-- The registry after operations, one after the other. -/
def run (r : EventRegistry α) (operations : List (Operation α)) : EventRegistry α :=
  operations.foldl perform r

end Operations

-- ============================================================================
-- The list of all events
-- ============================================================================

variable {r r' : EventRegistry α} {c : Condition} {id : Nat} {e : Event α}

/-- The events of some numbers. -/
def eventsOf (r : EventRegistry α) (ids : List Nat) : List (Nat × Event α) :=
  ids.filterMap fun id => (r.event? id).map (id, ·)

theorem mem_events : (id, e) ∈ r.events ↔ id ∈ r.registered ∧ r.event? id = some e := by
  unfold events
  rw [List.mem_filterMap]
  constructor
  · rintro ⟨other, registered, known⟩
    obtain ⟨e', he', same⟩ := Option.map_eq_some_iff.1 known
    cases same
    exact ⟨registered, he'⟩
  · rintro ⟨registered, he⟩
    exact ⟨id, registered, by rw [he]; rfl⟩

/-- Choosing among the numbers is choosing among the events. -/
theorem eventsOf_filter {p : Nat → Bool} {q : Nat × Event α → Bool} (ids : List Nat)
    (agree : ∀ id e, r.event? id = some e → p id = q (id, e)) :
    r.eventsOf (ids.filter p) = (r.eventsOf ids).filter q := by
  unfold eventsOf
  rw [List.filterMap_filter, List.filter_filterMap]
  refine List.filterMap_congr fun id _ => ?_
  cases he : r.event? id with
  | none => simp
  | some e => simp [Option.filter, agree id e he]

theorem map_eventsOf {ids : List Nat} (made : ∀ id ∈ ids, ∃ e, r.event? id = some e) :
    (r.eventsOf ids).map (·.1) = ids := by
  unfold eventsOf
  rw [List.map_filterMap, List.filterMap_congr (g := some), List.filterMap_some]
  intro id mem
  obtain ⟨e, he⟩ := made id mem
  rw [he]
  rfl

/-- A registered event is one that was made. -/
theorem Indexed.exists_event (h : r.Indexed) (registered : id ∈ r.registered) :
    ∃ e, r.event? id = some e :=
  ⟨_, List.getElem?_eq_getElem (h.bounded id registered)⟩

theorem Indexed.map_events (h : r.Indexed) : r.events.map (·.1) = r.registered :=
  map_eventsOf fun _ => h.exists_event

/-- Searching the index is choosing among all events. -/
theorem Indexed.matching_eq_events (h : r.Indexed) (metric location : String) :
    r.matching metric location
      = (r.events.filter fun p => p.2.condition.key = (metric, location)).map (·.1) := by
  have chosen := eventsOf_filter (r := r) (p := r.watches (metric, location))
    (q := fun p => p.2.condition.key = (metric, location)) r.registered fun id e he => by
      rw [watches, he]
      rfl
  rw [h.matching_eq, show r.events = r.eventsOf r.registered from rfl, ← chosen]
  exact (map_eventsOf fun id mem => h.exists_event (List.mem_filter.1 mem).1).symm

-- ============================================================================
-- Empty buckets
-- ============================================================================

/-- No bucket is empty. -/
def Filled (index : List EventBucket) : Prop := ∀ bucket ∈ index, bucket.events ≠ []

theorem Filled.enterIndex {index : List EventBucket} (filled : Filled index)
    (key : String × String) (id : Nat) : Filled (enterIndex key id index) := by
  induction index with
  | nil => simp [Filled, EventRegistry.enterIndex]
  | cons bucket rest ih =>
    obtain ⟨first, later⟩ := List.forall_mem_cons.1 filled
    unfold EventRegistry.enterIndex
    split
    · exact List.forall_mem_cons.2 ⟨by simp, later⟩
    · exact List.forall_mem_cons.2 ⟨first, ih later⟩

theorem Filled.leaveIndex {index : List EventBucket} (filled : Filled index)
    (key : String × String) (id : Nat) : Filled (leaveIndex key id index) := by
  induction index with
  | nil => exact filled
  | cons bucket rest ih =>
    obtain ⟨first, later⟩ := List.forall_mem_cons.1 filled
    unfold EventRegistry.leaveIndex
    split
    · split
      · exact later
      · rename_i left
        exact List.forall_mem_cons.2 ⟨left, later⟩
    · exact List.forall_mem_cons.2 ⟨first, ih later⟩

-- ============================================================================
-- One event for each condition
-- ============================================================================

/-- The index is right and has no empty bucket, and events of equal conditions are one. -/
structure Consistent (r : EventRegistry α) : Prop extends Indexed r where
  filled : Filled r.index
  unique : ∀ id e other e', (id, e) ∈ r.events → (other, e') ∈ r.events →
    e.condition.same e'.condition = true → id = other

theorem consistent_empty : ({} : EventRegistry α).Consistent :=
  { indexed_empty with
    filled := fun _ h => nomatch h
    unique := fun _ _ _ _ h => nomatch h }

/-- The event of a condition is the one that has an equal condition. -/
theorem Consistent.find?_eq_some_iff (h : r.Consistent) :
    r.find? c = some id ↔ ∃ e, (id, e) ∈ r.events ∧ e.condition.same c = true := by
  constructor
  · intro found
    obtain ⟨registered, e, he, same⟩ := find?_eq_some found
    exact ⟨e, mem_events.2 ⟨registered, he⟩, same⟩
  · rintro ⟨e, mem, same⟩
    obtain ⟨registered, he⟩ := mem_events.1 mem
    have contained : r.contains c = true := contains_iff.2 ⟨id, registered, e, he, same⟩
    obtain ⟨other, found⟩ := Option.isSome_iff_exists.1 contained
    obtain ⟨registered', e', he', same'⟩ := find?_eq_some found
    rw [found, h.unique id e other e' mem (mem_events.2 ⟨registered', he'⟩)
      (Condition.same_trans same (Condition.same_symm same'))]

theorem find?_eq_none_iff :
    r.find? c = none ↔ ∀ p ∈ r.events, p.2.condition.same c = false := by
  unfold find?
  rw [List.find?_eq_none]
  constructor
  · rintro none ⟨id, e⟩ mem
    obtain ⟨registered, he⟩ := mem_events.1 mem
    simpa [he] using none id registered
  · intro none id registered found
    obtain ⟨e, he, same⟩ := (Option.any_eq_true _ _).1 found
    rw [none (id, e) (mem_events.2 ⟨registered, he⟩)] at same
    cases same

-- ============================================================================
-- What each operation does
-- ============================================================================

/-- A condition whose event there is gets that one. -/
theorem Consistent.getOrCreate_eq_old_iff (h : r.Consistent) :
    r.getOrCreate c = .ok (r, id, false) ↔ ∃ e, (id, e) ∈ r.events ∧ e.condition.same c = true := by
  rw [← h.find?_eq_some_iff]
  unfold getOrCreate
  cases r.find? c with
  | some other => simp
  | none => cases Event.ofCondition (α := α) c <;> simp [bind, Except.bind, pure, Except.pure]

/-- Another condition gets a new event, unless its sign is no comparison. -/
theorem getOrCreate_eq_new (absent : ∀ p ∈ r.events, p.2.condition.same c = false) :
    r.getOrCreate c
      = (Event.ofCondition c).map fun _ : Event α => (r.created c, r.made.length, true) := by
  unfold getOrCreate Event.ofCondition
  rw [find?_eq_none_iff.2 absent]
  dsimp only
  split <;> rfl

/-- A new event comes after all others. -/
theorem Indexed.events_created (h : r.Indexed) (c : Condition) :
    (r.created c).events = r.events ++ [(r.made.length, { condition := c })] := by
  have old : ∀ id ∈ r.registered, (r.created c).event? id = r.event? id := fun id registered => by
    rw [event?_created, if_neg (Nat.ne_of_lt (h.bounded id registered))]
  unfold events
  rw [show (r.created c).registered = r.registered ++ [r.made.length] from rfl,
    List.filterMap_append, List.filterMap_congr fun id registered => by rw [old id registered],
    List.filterMap_cons_some (by rw [event?_created, if_pos rfl]; rfl)]
  rfl

/-- An event is removed if it is registered. -/
theorem remove_iff : (r.remove id).2 = true ↔ ∃ e, (id, e) ∈ r.events := by
  simp only [mem_events]
  unfold remove
  cases r.event? id with
  | none => simp
  | some e =>
    dsimp only
    split <;> simp_all

/-- An event is pruned if it is registered and no action waits for it. -/
theorem prune_iff : (r.prune id).2 = true ↔ ∃ e, (id, e) ∈ r.events ∧ e.actions = [] := by
  unfold prune
  cases he : r.event? id with
  | none => simp [mem_events, he]
  | some e =>
    have only : ∀ other, (id, other) ∈ r.events → other = e := fun other mem =>
      Option.some.inj ((mem_events.1 mem).2.symm.trans he)
    dsimp only
    split
    · rename_i idle
      refine remove_iff.trans (exists_congr fun other => ⟨fun mem => ⟨mem, ?_⟩, And.left⟩)
      rw [only other mem]
      exact List.isEmpty_iff.1 idle
    · rename_i busy
      refine ⟨nofun, ?_⟩
      rintro ⟨other, mem, idle⟩
      rw [only other mem] at idle
      exact absurd (List.isEmpty_iff.2 idle) busy

theorem Indexed.registered_remove (h : r.Indexed) (id : Nat) :
    (r.remove id).1.registered = r.registered.filter (· ≠ id) := by
  have absent (unregistered : id ∉ r.registered) :
      r.registered = r.registered.filter (· ≠ id) :=
    (List.filter_eq_self.2 fun other mem => by
      simpa using fun same : other = id => unregistered (same ▸ mem)).symm
  unfold EventRegistry.remove
  split
  · split
    · rw [h.nodup.erase_eq_filter id]
      exact List.filter_congr fun other _ => by by_cases same : other = id <;> simp [same]
    · exact absent ‹_›
  · rename_i unknown
    refine absent fun registered => ?_
    obtain ⟨e, he⟩ := h.exists_event registered
    exact nomatch unknown.symm.trans he

/-- The other events stay, in their order. -/
theorem Indexed.events_remove (h : r.Indexed) (id : Nat) :
    (r.remove id).1.events = r.events.filter fun p => p.1 ≠ id := by
  have unchanged : (r.remove id).1.eventsOf = r.eventsOf := by
    funext ids
    unfold eventsOf
    simp only [event?_remove]
  rw [show (r.remove id).1.events = (r.remove id).1.eventsOf (r.remove id).1.registered from rfl,
    unchanged, h.registered_remove]
  exact eventsOf_filter r.registered fun _ _ _ => rfl

theorem Indexed.events_prune (h : r.Indexed) (id : Nat) :
    (r.prune id).1.events = r.events.filter fun p => !(p.1 = id && p.2.actions.isEmpty) := by
  unfold EventRegistry.prune
  cases he : r.event? id with
  | none =>
    refine (List.filter_eq_self.2 fun p mem => ?_).symm
    have made := (mem_events.1 mem).2
    have other : p.1 ≠ id := fun same => nomatch (same ▸ made).symm.trans he
    simp [other]
  | some e =>
    have only : ∀ p ∈ r.events, p.1 = id → p.2 = e := fun p mem same =>
      Option.some.inj ((same ▸ (mem_events.1 mem).2).symm.trans he)
    dsimp only
    split
    · rename_i idle
      rw [h.events_remove]
      refine List.filter_congr fun p mem => ?_
      by_cases same : p.1 = id
      · simp [same, only p mem same, idle]
      · simp [same]
    · rename_i busy
      refine (List.filter_eq_self.2 fun p mem => ?_).symm
      by_cases same : p.1 = id
      · simp [only p mem same, busy]
      · simp [same]

-- ============================================================================
-- Whole runs
-- ============================================================================

/-- Changes that bring in no other conditions keep the registry consistent. -/
theorem Consistent.of_events (h : r.Consistent) (indexed : r'.Indexed) (filled : Filled r'.index)
    (old : ∀ id e', (id, e') ∈ r'.events →
      ∃ e, (id, e) ∈ r.events ∧ e'.condition = e.condition) : r'.Consistent where
  toIndexed := indexed
  filled := filled
  unique id e' other f' mem mem' same := by
    obtain ⟨e, he, condition⟩ := old id e' mem
    obtain ⟨f, hf, condition'⟩ := old other f' mem'
    rw [condition, condition'] at same
    exact h.unique id e other f he hf same

theorem Consistent.created (h : r.Consistent)
    (absent : ∀ p ∈ r.events, p.2.condition.same c = false) : (r.created c).Consistent where
  toIndexed := h.toIndexed.create { condition := c }
  filled := h.filled.enterIndex c.key r.made.length
  unique id e other e' mem mem' same := by
    rw [h.events_created, List.mem_append, List.mem_singleton] at mem mem'
    rcases mem with mem | mem
    · rcases mem' with mem' | mem'
      · exact h.unique id e other e' mem mem' same
      · obtain ⟨-, rfl⟩ := Prod.mk.inj mem'
        exact nomatch (absent _ mem).symm.trans same
    · obtain ⟨rfl, rfl⟩ := Prod.mk.inj mem
      rcases mem' with mem' | mem'
      · exact nomatch (absent _ mem').symm.trans (Condition.same_symm same)
      · exact (Prod.mk.inj mem').1.symm

theorem Consistent.remove (h : r.Consistent) (id : Nat) : (r.remove id).1.Consistent := by
  refine h.of_events (h.toIndexed.remove id) ?_ fun other e mem => ?_
  · unfold EventRegistry.remove
    split
    · split
      · exact h.filled.leaveIndex _ id
      · exact h.filled
    · exact h.filled
  · rw [h.events_remove] at mem
    exact ⟨e, (List.mem_filter.1 mem).1, rfl⟩

theorem Consistent.prune (h : r.Consistent) (id : Nat) : (r.prune id).1.Consistent := by
  unfold EventRegistry.prune
  split
  · split
    · exact h.remove id
    · exact h
  · exact h

section Runs

variable [DecidableEq α]

theorem Consistent.attach (h : r.Consistent) (id : Nat) (action : α) :
    (r.attach id action).Consistent := by
  refine h.of_events (h.toIndexed.attach id action) h.filled fun other e' mem => ?_
  obtain ⟨registered, he'⟩ := mem_events.1 mem
  unfold EventRegistry.attach at he'
  rw [event?_modify] at he'
  split at he'
  · obtain ⟨e, he, rfl⟩ := Option.map_eq_some_iff.1 he'
    exact ⟨e, mem_events.2 ⟨registered, he⟩, by unfold Event.attach; split <;> rfl⟩
  · exact ⟨e', mem_events.2 ⟨registered, he'⟩, rfl⟩

theorem Consistent.detach (h : r.Consistent) (id : Nat) (action : α) :
    (r.detach id action).1.Consistent := by
  refine h.of_events (h.toIndexed.detach id action) ?_ fun other e' mem => ?_
  · unfold EventRegistry.detach
    split <;> exact h.filled
  · obtain ⟨registered, he'⟩ := mem_events.1 mem
    obtain ⟨e, he, condition, -⟩ := exists_event_of_detach he'
    rw [registered_detach] at registered
    exact ⟨e, mem_events.2 ⟨registered, he⟩, condition⟩

theorem Consistent.getOrCreate (h : r.Consistent) (c : Condition) :
    (r.perform (.getOrCreate c)).Consistent := by
  unfold perform
  dsimp only
  cases found : r.find? c with
  | some id =>
    rw [h.getOrCreate_eq_old_iff.2 (h.find?_eq_some_iff.1 found)]
    exact h
  | none =>
    have absent := find?_eq_none_iff.1 found
    rw [getOrCreate_eq_new absent]
    cases Event.ofCondition (α := α) c with
    | ok => exact h.created absent
    | error => exact h

theorem Consistent.perform (h : r.Consistent) (operation : Operation α) :
    (r.perform operation).Consistent := by
  cases operation with
  | getOrCreate c => exact h.getOrCreate c
  | attach id action => exact h.attach id action
  | detach id action => exact h.detach id action
  | remove id => exact h.remove id
  | prune id => exact h.prune id

theorem Consistent.run (h : r.Consistent) (operations : List (Operation α)) :
    (r.run operations).Consistent := by
  induction operations generalizing r with
  | nil => exact h
  | cons operation rest ih => exact ih (h.perform operation)

/-- What the two views say after any run of operations, and what the next operation does.

    The index gives the events of a key in the order of the list. No two events of the list
    have equal conditions, so that a condition gets the event it has, if it has one, and else
    a new one at the end of the list. An event is registered just when its condition leads to
    it, and only then can it be removed; an event without actions can be pruned.
    No emptied bucket stays in the index. -/
theorem index_agrees_with_list (operations : List (Operation α)) :
    let r := ({} : EventRegistry α).run operations
    (∀ metric location, r.matching metric location
      = (r.events.filter fun p => p.2.condition.key = (metric, location)).map (·.1)) ∧
    (r.events.map (·.1)).Nodup ∧
    r.events.Pairwise (fun p q => p.2.condition.same q.2.condition = false) ∧
    (∀ c id, r.getOrCreate c = .ok (r, id, false)
      ↔ ∃ e, (id, e) ∈ r.events ∧ e.condition.same c = true) ∧
    (∀ c, (∀ p ∈ r.events, p.2.condition.same c = false) →
      r.getOrCreate c
        = (Event.ofCondition c).map (fun _ : Event α => (r.created c, r.made.length, true)) ∧
      (r.created c).events = r.events ++ [(r.made.length, { condition := c })]) ∧
    (∀ id, ((r.remove id).2 = true ↔ ∃ e, (id, e) ∈ r.events) ∧
      (r.remove id).1.events = r.events.filter fun p => p.1 ≠ id) ∧
    (∀ id e, r.event? id = some e → e.condition.same e.condition = true →
      ((id, e) ∈ r.events ↔ r.find? e.condition = some id)) ∧
    (∀ id, ((r.prune id).2 = true ↔ ∃ e, (id, e) ∈ r.events ∧ e.actions = []) ∧
      (r.prune id).1.events = r.events.filter fun p => !(p.1 = id && p.2.actions.isEmpty)) ∧
    ∀ bucket ∈ r.index, bucket.events ≠ [] := by
  intro r
  have h : r.Consistent := consistent_empty.run operations
  have nodup : (r.events.map (·.1)).Nodup := h.map_events ▸ h.nodup
  refine ⟨h.matching_eq_events, nodup, ?apart, fun c id => h.getOrCreate_eq_old_iff,
    fun c absent => ⟨getOrCreate_eq_new absent, h.events_created c⟩,
    fun id => ⟨remove_iff, h.events_remove id⟩, ?lookup,
    fun id => ⟨prune_iff, h.events_prune id⟩, h.filled⟩
  case apart =>
    refine (List.pairwise_map.1 nodup).imp_of_mem fun {p q} mem mem' other => ?_
    rw [Bool.eq_false_iff]
    exact fun same => other (h.unique p.1 p.2 q.1 q.2 mem mem' same)
  case lookup =>
    intro id e he reflexive
    rw [h.find?_eq_some_iff]
    constructor
    · exact fun mem => ⟨e, mem, reflexive⟩
    · rintro ⟨e', mem, -⟩
      obtain rfl := Option.some.inj ((mem_events.1 mem).2.symm.trans he)
      exact mem

/-- An event that was replaced by one for an equal condition, zero for minus zero, cannot be
    removed again. -/
example :
    let frost (negative : Bool) : Condition :=
      { metric := "temperature", location := "hall", operator := some "<"
        threshold := some (.finite negative ⟨0, by decide⟩), expected := true }
    let r := ({} : EventRegistry Nat).run
      [.getOrCreate (frost false), .remove 0, .getOrCreate (frost true), .remove 0]
    r.registered = [1] ∧ r.matching "temperature" "hall" = [1] ∧
      (r.getOrCreate (frost false)).toOption.map (·.2) = some (1, false) := by
  decide +kernel

end Runs

end EventRegistry

end HomeAutomation
