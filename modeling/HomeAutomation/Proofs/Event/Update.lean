/-
  HomeAutomation.Proofs.Event.Update

  What readings do to events.  An event that watches what a reading is about
  takes up what it sees in it; a reading without a usable value leaves it as
  it is, and a number too large for a double cannot be applied at all.

  `EventRegistry.observed` applies readings to the registered events that watch
  them.  When no two readings have the same key, every event sees at most one.
-/

import Mathlib.Data.List.Nodup
import HomeAutomation.Proofs.Event.Registry
import HomeAutomation.Proofs.Rule.Parser

namespace HomeAutomation

/-- Whether a reading is a number that events cannot convert. -/
def SensorReading.Overflows (r : SensorReading) : Prop :=
  r.metric ≠ motionMetric ∧ r.value.toDouble = .error .outOfRange

namespace Event

variable {α : Type} {e : Event α} {r : SensorReading}

-- ============================================================================
-- One event
-- ============================================================================

/-- The event after it has seen a value. -/
def saw (e : Event α) (value : EventValue) (holds : Bool) : Event α :=
  { e with value := some value, state := holds, changed := e.changed || holds != e.state }

/-- Whether a reading changes the state of an event. -/
def flips (e : Event α) (r : SensorReading) : Bool := (e.update r).1.state != e.state

theorem update_of_key_ne (h : r.key ≠ e.condition.key) : e.update r = (e, .ok false) := by
  have other : r.location ≠ e.condition.location ∨ r.metric ≠ e.condition.metric := by
    by_contra hc
    simp only [not_or, ne_eq, not_not] at hc
    exact h (Prod.ext hc.2 hc.1)
  rw [update, if_pos (by simpa using other)]

theorem update_of_key (h : r.key = e.condition.key) :
    e.update r =
      match e.condition.see r.value with
      | .error .outOfRange => (e, .error (.conversion .outOfRange))
      | .error _ => (e, .ok false)
      | .ok seen =>
        let e := { e with value := some seen }
        match e.condition.test seen with
        | .error error => (e, .error error)
        | .ok holds =>
          if holds = e.state then (e, .ok false)
          else ({ e with state := holds, changed := true }, .ok true) := by
  have hm : r.metric = e.condition.metric := congrArg Prod.fst h
  have hl : r.location = e.condition.location := congrArg Prod.snd h
  unfold update
  exact if_neg (by simp [hm, hl])

/-- An event takes up what it sees in a reading. -/
theorem update_of_seen (ruled : e.condition.Ruled) (h : r.key = e.condition.key)
    {seen : EventValue} (hs : e.condition.see r.value = .ok seen) :
    ∃ holds, e.condition.test seen = .ok holds ∧
      e.update r = (e.saw seen holds, .ok (holds != e.state)) := by
  obtain ⟨holds, ht⟩ := ruled.test_ok hs
  refine ⟨holds, ht, ?_⟩
  rw [update_of_key h, hs]
  simp only [ht]
  by_cases hstate : holds = e.state <;> simp [hstate, saw]

/-- A value that cannot be used is passed over. -/
theorem update_of_unusable (h : r.key = e.condition.key) {error : Json.ConversionError}
    (hs : e.condition.see r.value = .error error) (hr : ¬ r.Overflows) :
    e.update r = (e, .ok false) := by
  rw [update_of_key h, hs]
  cases error with
  | outOfRange =>
    have hmetric : r.metric = e.condition.metric := congrArg Prod.fst h
    unfold Condition.see at hs
    split at hs
    · cases hs
    · rename_i other
      refine absurd ⟨?_, ?_⟩ hr
      · simpa [hmetric, Condition.isMotion] using other
      · cases hv : r.value.toDouble <;> simp_all [Except.map]
  | _ => rfl

/-- A number that is too large leaves the event alone and cannot be passed over. -/
theorem update_of_overflows (h : r.key = e.condition.key) (hr : r.Overflows) :
    e.update r = (e, .error (.conversion .outOfRange)) := by
  have hmetric : r.metric = e.condition.metric := congrArg Prod.fst h
  have other : e.condition.isMotion = false := by simpa [Condition.isMotion, ← hmetric] using hr.1
  rw [update_of_key h, Condition.see, other, hr.2]
  rfl

/-- A reading that is no such number is applied, and the event tells whether its state changed. -/
theorem update_ok (ruled : e.condition.Ruled) (hr : ¬ r.Overflows) :
    (e.update r).2 = .ok (e.flips r) := by
  unfold flips
  by_cases h : r.key = e.condition.key
  · cases hs : e.condition.see r.value with
    | error error => simp [update_of_unusable h hs hr]
    | ok seen =>
      obtain ⟨holds, -, hu⟩ := update_of_seen ruled h hs
      simp [hu, saw]
  · simp [update_of_key_ne h]

/-- A reading changes neither what an event watches for nor who waits for it. -/
theorem update_frame (e : Event α) (r : SensorReading) :
    (e.update r).1.condition = e.condition ∧ (e.update r).1.actions = e.actions := by
  unfold update
  split
  · exact ⟨rfl, rfl⟩
  · split
    · exact ⟨rfl, rfl⟩
    · exact ⟨rfl, rfl⟩
    · dsimp only
      split
      · exact ⟨rfl, rfl⟩
      · split <;> exact ⟨rfl, rfl⟩

end Event

namespace EventRegistry

variable {α : Type} {reg : EventRegistry α}

-- ============================================================================
-- One reading
-- ============================================================================

/-- Applies a reading to the events of a list. -/
def apply (reg : EventRegistry α) (r : SensorReading) (ids : List Nat) : EventRegistry α :=
  ids.foldl (fun reg id => reg.modify id fun e => (e.update r).1) reg

/-- Applying a reading changes nothing but events, and of those not what they watch. -/
structure Alike (reg reg' : EventRegistry α) : Prop where
  registered : reg'.registered = reg.registered
  index : reg'.index = reg.index
  length : reg'.made.length = reg.made.length
  frame : ∀ id, (reg'.event? id).map (fun e => (e.condition, e.actions))
    = (reg.event? id).map fun e => (e.condition, e.actions)

theorem Alike.refl (reg : EventRegistry α) : reg.Alike reg := ⟨rfl, rfl, rfl, fun _ => rfl⟩

theorem Alike.symm {reg reg' : EventRegistry α} (h : reg.Alike reg') : reg'.Alike reg :=
  ⟨h.registered.symm, h.index.symm, h.length.symm, fun id => (h.frame id).symm⟩

theorem Alike.trans {a b c : EventRegistry α} (h : a.Alike b) (h' : b.Alike c) : a.Alike c :=
  ⟨h'.registered.trans h.registered, h'.index.trans h.index, h'.length.trans h.length,
    fun id => (h'.frame id).trans (h.frame id)⟩

theorem Alike.matching_eq {reg reg' : EventRegistry α} (h : reg.Alike reg')
    (metric location : String) : reg'.matching metric location = reg.matching metric location := by
  rw [matching, h.index, matching]

/-- Alike registries have alike events. -/
theorem Alike.exists_event {reg reg' : EventRegistry α} (h : reg.Alike reg') {id : Nat}
    {e' : Event α} (he : reg'.event? id = some e') :
    ∃ e, reg.event? id = some e ∧ e'.condition = e.condition ∧ e'.actions = e.actions := by
  have frame := h.frame id
  rw [he] at frame
  obtain ⟨e, hreg, heq⟩ := Option.map_eq_some_iff.1 frame.symm
  exact ⟨e, hreg, (congrArg Prod.fst heq).symm, (congrArg Prod.snd heq).symm⟩

theorem Alike.indexed {reg reg' : EventRegistry α} (h : reg.Alike reg') (indexed : reg.Indexed) :
    reg'.Indexed := by
  refine indexed.congr h.registered h.index h.length fun id => ?_
  have := congrArg (Option.map Prod.fst) (h.frame id)
  simpa [Option.map_map, Function.comp_def] using this

theorem alike_modify_update (reg : EventRegistry α) (r : SensorReading) (id : Nat) :
    reg.Alike (reg.modify id fun e => (e.update r).1) := by
  refine ⟨rfl, rfl, List.length_modify .., fun other => ?_⟩
  rw [event?_modify]
  split
  · rw [Option.map_map]
    refine congrArg (Option.map · _) (funext fun e => ?_)
    simp [e.update_frame r]
  · rfl

theorem alike_apply (reg : EventRegistry α) (r : SensorReading) (ids : List Nat) :
    reg.Alike (reg.apply r ids) := by
  induction ids generalizing reg with
  | nil => exact .refl reg
  | cons id rest ih => exact (alike_modify_update reg r id).trans (ih _)

theorem event?_apply_of_notMem (reg : EventRegistry α) (r : SensorReading) {ids : List Nat}
    {id : Nat} (h : id ∉ ids) :
    (reg.apply r ids).event? id = reg.event? id := by
  induction ids generalizing reg with
  | nil => rfl
  | cons first rest ih =>
    rw [List.mem_cons, not_or] at h
    refine (ih _ h.2).trans ?_
    rw [event?_modify, if_neg (Ne.symm h.1)]

theorem event?_apply_of_mem (reg : EventRegistry α) (r : SensorReading) {ids : List Nat}
    (nodup : ids.Nodup) {id : Nat} (h : id ∈ ids) :
    (reg.apply r ids).event? id = (reg.event? id).map fun e => (e.update r).1 := by
  induction ids generalizing reg with
  | nil => cases h
  | cons first rest ih =>
    rw [List.nodup_cons] at nodup
    rcases List.mem_cons.1 h with rfl | h
    · refine (event?_apply_of_notMem _ r nodup.1).trans ?_
      rw [event?_modify, if_pos rfl]
    · refine (ih _ nodup.2 h).trans ?_
      rw [event?_modify, if_neg (by rintro rfl; exact nodup.1 h)]

-- ============================================================================
-- All readings
-- ============================================================================

/-- Applies readings to the events that match them. -/
def observed (reg : EventRegistry α) (readings : List SensorReading) : EventRegistry α :=
  readings.foldl (fun reg r => reg.apply r (reg.matching r.metric r.location)) reg

theorem alike_observed (reg : EventRegistry α) (readings : List SensorReading) :
    reg.Alike (reg.observed readings) := by
  induction readings generalizing reg with
  | nil => exact .refl reg
  | cons r rest ih => exact (alike_apply reg r _).trans (ih _)

/-- An event that watches none of the readings stays as it is. -/
theorem event?_observed_of_notMem (reg : EventRegistry α) {readings : List SensorReading} {id : Nat}
    (h : ∀ r ∈ readings, id ∉ reg.matching r.metric r.location) :
    (reg.observed readings).event? id = reg.event? id := by
  induction readings generalizing reg with
  | nil => rfl
  | cons r rest ih =>
    refine (ih _ fun r' hr' => ?_).trans (event?_apply_of_notMem reg r (h r List.mem_cons_self))
    rw [(alike_apply reg r _).matching_eq]
    exact h r' (List.mem_cons_of_mem _ hr')

/-- An event matches readings of one key only. -/
theorem Indexed.key_eq_of_matching (indexed : reg.Indexed) {r r' : SensorReading} {id : Nat}
    (h : id ∈ reg.matching r.metric r.location) (h' : id ∈ reg.matching r'.metric r'.location) :
    r.key = r'.key := by
  rw [indexed.matching_eq, List.mem_filter] at h h'
  obtain ⟨e, he, hk⟩ := (Option.any_eq_true _ _).1 h.2
  obtain ⟨e', he', hk'⟩ := (Option.any_eq_true _ _).1 h'.2
  obtain rfl : e = e' := Option.some.inj (he.symm.trans he')
  exact (of_decide_eq_true hk).symm.trans (of_decide_eq_true hk')

/-- An event that watches a reading is updated by it, and by no other reading. -/
theorem event?_observed_of_mem (indexed : reg.Indexed) {readings : List SensorReading}
    (keys : (readings.map (·.key)).Nodup) {r : SensorReading} (hr : r ∈ readings) {id : Nat}
    (h : id ∈ reg.matching r.metric r.location) :
    (reg.observed readings).event? id = (reg.event? id).map fun e => (e.update r).1 := by
  induction readings generalizing reg with
  | nil => cases hr
  | cons first rest ih =>
    rw [List.map_cons, List.nodup_cons] at keys
    have alike := alike_apply reg first (reg.matching first.metric first.location)
    have nodup : (reg.matching first.metric first.location).Nodup := by
      rw [indexed.matching_eq]
      exact indexed.nodup.filter _
    rcases List.mem_cons.1 hr with rfl | hr
    · have elsewhere : ∀ r' ∈ rest, id ∉ (reg.apply r (reg.matching r.metric r.location)).matching
          r'.metric r'.location := by
        intro r' hr' h'
        rw [alike.matching_eq] at h'
        exact keys.1 (List.mem_map.2 ⟨r', hr', indexed.key_eq_of_matching h' h⟩)
      exact (event?_observed_of_notMem _ elsewhere).trans (event?_apply_of_mem reg r nodup h)
    · refine (ih (alike.indexed indexed) keys.2 hr (by rwa [alike.matching_eq])).trans ?_
      rw [event?_apply_of_notMem]
      intro h'
      exact keys.1 (List.mem_map.2 ⟨r, hr, indexed.key_eq_of_matching h h'⟩)

/-- The events whose state readings change, in the order of the changes. -/
def flipped (reg : EventRegistry α) (readings : List SensorReading) : List Nat :=
  readings.flatMap fun r => (reg.matching r.metric r.location).filter fun id =>
    (reg.event? id).any (·.flips r)

/-- No event changes its state twice. -/
theorem nodup_flipped (indexed : reg.Indexed) {readings : List SensorReading}
    (keys : (readings.map (·.key)).Nodup) : (reg.flipped readings).Nodup := by
  rw [flipped, List.nodup_flatMap]
  constructor
  · intro r _
    rw [indexed.matching_eq]
    exact (indexed.nodup.filter _).filter _
  · refine (List.pairwise_map.1 keys).imp fun {r r'} hne id h h' => hne ?_
    exact indexed.key_eq_of_matching (List.mem_of_mem_filter h) (List.mem_of_mem_filter h')

end EventRegistry

end HomeAutomation
