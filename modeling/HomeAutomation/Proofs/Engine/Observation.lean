/-
  HomeAutomation.Proofs.Engine.Observation

  What readings do to a rule book.  As long as no number is too large for the
  events that watch it, every reading is applied and the events whose state
  changed are found in order.  The first such number stops everything: what
  the readings before it have done remains.
-/

import HomeAutomation.Proofs.Engine.Assignment
import HomeAutomation.Proofs.Sensor.Snapshot

namespace HomeAutomation

namespace EventRegistry

variable {α : Type} {reg : EventRegistry α}

/-- Whether a reading can be applied to no event that watches it, and there is one. -/
def Blocks (reg : EventRegistry α) (r : SensorReading) : Prop :=
  r.Overflows ∧ reg.matching r.metric r.location ≠ []

theorem modify_congr {id : Nat} {e : Event α} {f g : Event α → Event α}
    (he : reg.event? id = some e) (h : f e = g e) : reg.modify id f = reg.modify id g := by
  unfold modify
  congr 1
  refine List.ext_getElem? fun other => ?_
  rw [List.getElem?_modify, List.getElem?_modify]
  by_cases hid : id = other
  · subst hid
    rw [event?] at he
    simp [he, h]
  · simp [hid]

theorem modify_eq_self {id : Nat} {e : Event α} (he : reg.event? id = some e) :
    (reg.modify id fun _ => e) = reg := by
  rw [modify_congr (g := fun e => e) he rfl]
  unfold modify
  congr 1
  exact List.ext_getElem? fun other => by rw [List.getElem?_modify]; simp

/-- An event that matches a reading watches it. -/
theorem Indexed.exists_of_matching (indexed : reg.Indexed) {r : SensorReading} {id : Nat}
    (h : id ∈ reg.matching r.metric r.location) :
    id ∈ reg.registered ∧ ∃ e, reg.event? id = some e ∧ r.key = e.condition.key := by
  rw [indexed.matching_eq, List.mem_filter] at h
  obtain ⟨e, he, hk⟩ := (Option.any_eq_true _ _).1 h.2
  exact ⟨h.1, e, he, (of_decide_eq_true hk).symm⟩

theorem Indexed.nodup_matching (indexed : reg.Indexed) (metric location : String) :
    (reg.matching metric location).Nodup := by
  rw [indexed.matching_eq]
  exact indexed.nodup.filter _

end EventRegistry

namespace RuleBook

-- ============================================================================
-- One reading
-- ============================================================================

theorem observeReading_eq {r : SensorReading} (hr : ¬ r.Overflows) {book : RuleBook}
    {triggered ids : List Nat} (nodup : ids.Nodup) (fresh : ∀ id ∈ ids, id ∉ triggered)
    (known : ∀ id ∈ ids, ∃ e, book.events.event? id = some e ∧ e.condition.Ruled) :
    observeReading r book triggered ids
      = ({ book with events := book.events.apply r ids },
          triggered ++ ids.filter fun id => (book.events.event? id).any (·.flips r), none) := by
  induction ids generalizing book triggered with
  | nil => simp [observeReading, EventRegistry.apply]
  | cons id rest ih =>
    rw [List.nodup_cons] at nodup
    obtain ⟨e, he, ruled⟩ := known id List.mem_cons_self
    have hmodify : (book.events.modify id fun _ => (e.update r).1)
        = book.events.modify id fun e => (e.update r).1 := EventRegistry.modify_congr he rfl
    have others : ∀ other ∈ rest, (book.events.modify id fun e => (e.update r).1).event? other
        = book.events.event? other := by
      intro other ho
      rw [EventRegistry.event?_modify, if_neg (by rintro rfl; exact nodup.1 ho)]
    have hid : id ∉ triggered := fresh id List.mem_cons_self
    unfold observeReading
    simp only [he, hmodify, Event.update_ok ruled hr, hid, not_false_eq_true, decide_true,
      Bool.and_true]
    rw [ih nodup.2]
    · refine Prod.ext rfl (Prod.ext ?_ rfl)
      dsimp only
      rw [List.filter_congr fun other ho => by rw [others other ho]]
      cases hf : e.flips r <;> simp [he, hf]
    · intro other ho
      have hne : other ≠ id := by
        rintro rfl
        exact nodup.1 ho
      have := fresh other (List.mem_cons_of_mem _ ho)
      split <;> simp [this, hne]
    · intro other ho
      obtain ⟨e', he', ruled'⟩ := known other (List.mem_cons_of_mem _ ho)
      exact ⟨e', (others other ho).trans he', ruled'⟩

/-- A number that is too large stops at the first event, which stays as it is. -/
theorem observeReading_of_overflows {r : SensorReading} (hr : r.Overflows) {book : RuleBook}
    {triggered rest : List Nat} {id : Nat} {e : Event Nat} (he : book.events.event? id = some e)
    (key : r.key = e.condition.key) :
    observeReading r book triggered (id :: rest)
      = (book, triggered, some (.conversion .outOfRange)) := by
  unfold observeReading
  simp only [he, Event.update_of_overflows key hr, EventRegistry.modify_eq_self he]

-- ============================================================================
-- All readings
-- ============================================================================

/-- Readings that can be applied are applied, whatever comes after them. -/
theorem observe_append {book : RuleBook} (sound : book.Sound) {triggered : List Nat}
    {readings more : List SensorReading} (keys : (readings.map (·.key)).Nodup)
    (usable : ∀ r ∈ readings, ¬ book.events.Blocks r)
    (fresh : ∀ r ∈ readings, ∀ id ∈ book.events.matching r.metric r.location, id ∉ triggered) :
    book.observe triggered (readings ++ more)
      = observe { book with events := book.events.observed readings }
          (triggered ++ book.events.flipped readings) more := by
  induction readings generalizing book triggered with
  | nil => simp [EventRegistry.observed, EventRegistry.flipped]
  | cons r rest ih =>
    rw [List.map_cons, List.nodup_cons] at keys
    have indexed := sound.indexed
    have first : observeReading r book triggered (book.events.matching r.metric r.location)
        = ({ book with events := book.events.apply r (book.events.matching r.metric r.location) },
            triggered ++ (book.events.matching r.metric r.location).filter
              fun id => (book.events.event? id).any (·.flips r), none) := by
      by_cases hr : r.Overflows
      · -- nobody watches it
        have none : book.events.matching r.metric r.location = [] := by
          by_contra some
          exact usable r List.mem_cons_self ⟨hr, some⟩
        rw [none]
        simp [observeReading, EventRegistry.apply]
      · refine observeReading_eq hr (indexed.nodup_matching _ _) (fresh r List.mem_cons_self)
          fun id hid => ?_
        obtain ⟨-, e, he, -⟩ := indexed.exists_of_matching hid
        exact ⟨e, he, sound.ruled he⟩
    have alike := EventRegistry.alike_apply book.events r (book.events.matching r.metric r.location)
    have apart : ∀ r' ∈ rest, ∀ id ∈ book.events.matching r'.metric r'.location,
        id ∉ book.events.matching r.metric r.location := fun r' hr' id h' h =>
      keys.1 (List.mem_map.2 ⟨r', hr', indexed.key_eq_of_matching h' h⟩)
    have next : Sound { book with
        events := book.events.apply r (book.events.matching r.metric r.location) } :=
      sound.alike alike rfl
    rw [List.cons_append, observe, first]
    dsimp only
    rw [ih next keys.2]
    · congr 1
      rw [List.append_assoc]
      congr 1
      simp only [EventRegistry.flipped, List.flatMap_cons]
      congr 1
      refine List.flatMap_congr fun r' hr' => ?_
      rw [alike.matching_eq]
      refine List.filter_congr fun id hid => ?_
      rw [EventRegistry.event?_apply_of_notMem _ _ (apart r' hr' id hid)]
    · intro r' hr' blocks
      refine usable r' (List.mem_cons_of_mem _ hr') ⟨blocks.1, ?_⟩
      rw [← alike.matching_eq]
      exact blocks.2
    · intro r' hr' id hid
      rw [alike.matching_eq] at hid
      rw [List.mem_append, not_or, List.mem_filter]
      exact ⟨fresh r' (List.mem_cons_of_mem _ hr') id hid, fun h => apart r' hr' id hid h.1⟩

/-- Either all readings can be applied, or there is a first that cannot. -/
theorem exists_first_blocked (reg : EventRegistry Nat) (readings : List SensorReading) :
    (∀ r ∈ readings, ¬ reg.Blocks r) ∨
      ∃ before r after, readings = before ++ r :: after ∧ (∀ r ∈ before, ¬ reg.Blocks r) ∧
        reg.Blocks r := by
  induction readings with
  | nil => exact .inl (by simp)
  | cons r rest ih =>
    by_cases hr : reg.Blocks r
    · exact .inr ⟨[], r, rest, rfl, by simp, hr⟩
    · rcases ih with usable | ⟨before, r', after, rfl, usable, blocked⟩
      · exact .inl (List.forall_mem_cons.2 ⟨hr, usable⟩)
      · exact .inr ⟨r :: before, r', after, rfl, List.forall_mem_cons.2 ⟨hr, usable⟩, blocked⟩

theorem observe_of_usable {book : RuleBook} (sound : book.Sound) {readings : List SensorReading}
    (keys : (readings.map (·.key)).Nodup) (usable : ∀ r ∈ readings, ¬ book.events.Blocks r) :
    book.observe [] readings = ({ book with events := book.events.observed readings },
      .ok (book.events.flipped readings)) := by
  have h : book.observe [] (readings ++ []) = _ := observe_append sound keys usable (by simp)
  rw [List.append_nil] at h
  exact h

theorem observe_of_blocked {book : RuleBook} (sound : book.Sound)
    {before after : List SensorReading} {r : SensorReading}
    (keys : ((before ++ r :: after).map (·.key)).Nodup)
    (usable : ∀ r ∈ before, ¬ book.events.Blocks r) (blocked : book.events.Blocks r) :
    book.observe [] (before ++ r :: after)
      = ({ book with events := book.events.observed before },
          .error (.conversion .outOfRange)) := by
  rw [List.map_append] at keys
  rw [observe_append sound (List.nodup_append.1 keys).1 usable (by simp)]
  have alike := book.events.alike_observed before
  obtain ⟨id, rest, hids⟩ := List.exists_cons_of_ne_nil blocked.2
  have hid : id ∈ (book.events.observed before).matching r.metric r.location := by
    rw [alike.matching_eq, hids]
    exact List.mem_cons_self
  obtain ⟨-, e, he, key⟩ := (alike.indexed sound.indexed).exists_of_matching hid
  rw [observe]
  dsimp only
  rw [alike.matching_eq, hids, observeReading_of_overflows blocked.1 he key]

end RuleBook

-- ============================================================================
-- Snapshots
-- ============================================================================

namespace Engine

variable {σ : Type} {engine engine' : Engine σ} {snapshot : Json}

/-- The engine after readings were applied. -/
def after (engine : Engine σ) (readings : List SensorReading) : Engine σ :=
  { engine with book := { engine.book with events := engine.book.events.observed readings } }

/-- A snapshot whose events are found was applied as a whole. -/
theorem observe_eq_ok (sound : engine.book.Sound) {events : List Nat}
    (h : engine.observe snapshot = (engine', .ok events)) :
    ∃ readings, Snapshot.readings snapshot = .ok readings ∧
      (∀ r ∈ readings, ¬ engine.book.events.Blocks r) ∧ engine' = engine.after readings ∧
      events = engine.book.events.flipped readings := by
  unfold observe at h
  split at h
  · cases h
  · rename_i readings hr
    have keys := Snapshot.nodup_keys_readings hr
    rcases RuleBook.exists_first_blocked engine.book.events readings with
      usable | ⟨before, r, rest, rfl, usable, blocked⟩
    · rw [RuleBook.observe_of_usable sound keys usable] at h
      cases h
      exact ⟨readings, hr, usable, rfl, rfl⟩
    · rw [RuleBook.observe_of_blocked sound keys usable blocked] at h
      cases h

/-- A snapshot with a number that is too large is applied up to there. -/
theorem observe_of_blocked (sound : engine.book.Sound) {before after : List SensorReading}
    {r : SensorReading} (hr : Snapshot.readings snapshot = .ok (before ++ r :: after))
    (usable : ∀ r ∈ before, ¬ engine.book.events.Blocks r) (blocked : engine.book.events.Blocks r) :
    engine.observe snapshot
      = (engine.after before, .error (.untestable (.conversion .outOfRange))) := by
  unfold observe
  simp only [hr, RuleBook.observe_of_blocked sound (Snapshot.nodup_keys_readings hr) usable blocked]
  rfl

/-- A snapshot that fails is no object, or it was applied up to a number that is too large. -/
theorem observe_eq_error (sound : engine.book.Sound) {e : DispatchError}
    (h : engine.observe snapshot = (engine', .error e)) :
    engine' = engine ∨
      ∃ before r after, Snapshot.readings snapshot = .ok (before ++ r :: after) ∧
        (∀ r ∈ before, ¬ engine.book.events.Blocks r) ∧ engine.book.events.Blocks r ∧
        engine' = engine.after before := by
  cases hr : Snapshot.readings snapshot with
  | error =>
    rw [observe, hr] at h
    cases h
    exact .inl rfl
  | ok readings =>
    rcases RuleBook.exists_first_blocked engine.book.events readings with
      usable | ⟨before, r, after, rfl, usable, blocked⟩
    · rw [observe, hr] at h
      dsimp only at h
      rw [RuleBook.observe_of_usable sound (Snapshot.nodup_keys_readings hr) usable] at h
      cases h
    · rw [observe_of_blocked sound hr usable blocked] at h
      cases h
      exact .inr ⟨before, r, after, rfl, usable, blocked, rfl⟩

theorem sound_after (sound : engine.book.Sound) (readings : List SensorReading) :
    (engine.after readings).book.Sound :=
  sound.alike (engine.book.events.alike_observed readings) rfl

theorem sound_observe (sound : engine.book.Sound)
    {result : Except DispatchError (List Nat)}
    (h : engine.observe snapshot = (engine', result)) : engine'.book.Sound := by
  cases result with
  | ok events =>
    obtain ⟨readings, -, -, rfl, -⟩ := observe_eq_ok sound h
    exact sound_after sound readings
  | error e =>
    obtain rfl | ⟨before, r, rest, -, -, -, rfl⟩ := observe_eq_error sound h
    · exact sound
    · exact sound_after sound before

end Engine

/-- Requests keep the rules in order. -/
theorem RuleBook.Sound.request {book : RuleBook} (sound : book.Sound) (range : SetPointRange)
    (request : Activity.Request) : (request.book range book).Sound := by
  cases request with
  | register text id =>
    simp only [Activity.Request.book]
    split
    · exact sound.register ‹_›
    · exact sound
  | remove ruleId => exact sound.remove ruleId
  | removeHandle handle => exact sound.remove handle.ruleId
  | load stored => exact sound.load range stored
  | process | execute => exact sound

/-- The rules are in order in every reachable activity. -/
theorem Activity.Reached.sound {σ : Type} {backend : Backend σ} {initial : Engine σ}
    {log : List Contact} {activity : Activity σ}
    (reached : Activity.Reached backend initial log activity) : activity.engine.book.Sound := by
  induction reached with
  | start empty => exact empty ▸ RuleBook.Sound.empty
  | submit request _ ih => exact ih.request _ request
  | advance _ step ih =>
    cases step.advances with
    | pause | queue | gather => exact ih
    | run task idle proceeds =>
      refine ih.alike ?_ proceeds.length_eq
      rw [proceeds.events_eq]
      exact .refl _
    | refuse task held observes => exact Engine.sound_observe ih observes
    | spread task held observes fans => exact Engine.sound_observe ih observes

end HomeAutomation
