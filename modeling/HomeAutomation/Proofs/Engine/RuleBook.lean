/-
  HomeAutomation.Proofs.Engine.RuleBook

  What every registration and removal of rules keeps: the index of events is
  right, events have conditions that can be tested, and every attached action
  exists and waits for one event, once.
-/

import HomeAutomation.Engine.RuleBook
import HomeAutomation.Proofs.Event.Update

namespace HomeAutomation

namespace RuleBook

-- ============================================================================
-- Registration
-- ============================================================================

/-- A registration reads the text, removes the rule that has the id, and enters the new one. -/
theorem exists_of_register {book book' : RuleBook} {range : SetPointRange} {text : String}
    {id : Option String} {handle : Handle}
    (h : book.register range text id = .ok (book', handle)) :
    ∃ rule, Rule.parse range text = .ok rule ∧
      ((book.chooseId id).1.remove (book.chooseId id).2).1.enter (book.chooseId id).2 text rule
        = (book', handle) := by
  unfold register at h
  cases hr : Rule.parse range text with
  | error e => rw [hr] at h; cases h
  | ok rule =>
    rw [hr] at h
    exact ⟨rule, rfl, Except.ok.inj h⟩

/-- What every registration keeps, loading keeps. -/
theorem load_induction {range : SetPointRange} {P : RuleBook → Prop}
    (register : ∀ book book' text id handle, P book →
      book.register range text id = .ok (book', handle) → P book')
    (book : RuleBook) (stored : List (String × String)) (h : P book) :
    P (book.load range stored).1 := by
  unfold load
  refine List.foldlRecOn (motive := fun s : RuleBook × List Handle => P s.1) stored _ h ?_
  rintro ⟨b, loaded⟩ hb ⟨id, text⟩ -
  dsimp only
  split
  · exact register b _ text (some id) _ hb ‹_›
  · exact hb

-- ============================================================================
-- The invariant
-- ============================================================================

/-- The events of a rule book are in order. -/
structure Sound (book : RuleBook) : Prop where
  indexed : book.events.Indexed
  ruled : ∀ {id : Nat} {e : Event Nat}, book.events.event? id = some e → e.condition.Ruled
  bounded : ∀ {id : Nat} {e : Event Nat}, book.events.event? id = some e →
    ∀ action ∈ e.actions, action < book.actions.length
  nodup : ∀ {id : Nat} {e : Event Nat}, book.events.event? id = some e → e.actions.Nodup
  apart : ∀ {id id' : Nat} {e e' : Event Nat} {action : Nat}, book.events.event? id = some e →
    book.events.event? id' = some e' → action ∈ e.actions → action ∈ e'.actions → id = id'

namespace Sound

variable {book book' : RuleBook}

theorem empty : ({} : RuleBook).Sound :=
  ⟨EventRegistry.indexed_empty, by simp [EventRegistry.event?], by simp [EventRegistry.event?],
    by simp [EventRegistry.event?], by simp [EventRegistry.event?]⟩

/-- Events that wait with fewer actions are still in order. -/
theorem shrink (sound : book.Sound) (indexed : book'.events.Indexed)
    (length : book.actions.length ≤ book'.actions.length)
    (old : ∀ {id : Nat} {e' : Event Nat}, book'.events.event? id = some e' →
      ∃ e, book.events.event? id = some e ∧ e'.condition = e.condition ∧
        e'.actions.Sublist e.actions) : book'.Sound := by
  refine ⟨indexed, fun h => ?_, fun h action ha => ?_, fun h => ?_, fun h h' ha ha' => ?_⟩
  · obtain ⟨e, he, condition, -⟩ := old h
    exact condition ▸ sound.ruled he
  · obtain ⟨e, he, -, actions⟩ := old h
    exact Nat.lt_of_lt_of_le (sound.bounded he action (actions.subset ha)) length
  · obtain ⟨e, he, -, actions⟩ := old h
    exact actions.nodup (sound.nodup he)
  · obtain ⟨e, he, -, actions⟩ := old h
    obtain ⟨e', he', -, actions'⟩ := old h'
    exact sound.apart he he' (actions.subset ha) (actions'.subset ha')

/-- Events that differ in what they have seen only are still in order. -/
theorem alike (sound : book.Sound) (alike : book.events.Alike book'.events)
    (length : book'.actions.length = book.actions.length) : book'.Sound := by
  refine sound.shrink (alike.indexed sound.indexed) (Nat.le_of_eq length.symm) fun h => ?_
  obtain ⟨e, he, condition, actions⟩ := alike.exists_event h
  exact ⟨e, he, condition, actions ▸ .refl _⟩

theorem remove (sound : book.Sound) (ruleId : String) : (book.remove ruleId).1.Sound := by
  unfold RuleBook.remove
  split
  · exact sound
  · rename_i handle _
    refine sound.shrink ((sound.indexed.detach _ _).prune _) (Nat.le_refl _) fun h => ?_
    rw [EventRegistry.event?_prune] at h
    exact EventRegistry.exists_event_of_detach h

/-- A new event waits with no actions. -/
theorem create (sound : book.Sound) {c : Condition} (ruled : c.Ruled) :
    Sound { book with
      events := { made := book.events.made ++ [{ condition := c }]
                  registered := book.events.registered ++ [book.events.made.length]
                  index := EventRegistry.enterIndex c.key book.events.made.length
                    book.events.index } } := by
  have old : ∀ {id : Nat} {e : Event Nat},
      (book.events.made ++ [({ condition := c } : Event Nat)])[id]? = some e →
      book.events.event? id = some e ∨ e = { condition := c } := by
    intro id e h
    rcases Nat.lt_or_ge id book.events.made.length with hid | hid
    · rw [List.getElem?_append_left hid] at h
      exact .inl h
    · rw [List.getElem?_append_right hid] at h
      exact .inr (by simpa using List.mem_of_getElem? h)
  refine ⟨sound.indexed.create { condition := c }, fun h => ?_, fun h action ha => ?_, fun h => ?_,
    fun h h' ha ha' => ?_⟩
  · rcases old h with h | rfl
    · exact sound.ruled h
    · exact ruled
  · rcases old h with h | rfl
    · exact sound.bounded h action ha
    · cases ha
  · rcases old h with h | rfl
    · exact sound.nodup h
    · exact .nil
  · rcases old h with h | rfl
    · rcases old h' with h' | rfl
      · exact sound.apart h h' ha ha'
      · cases ha'
    · cases ha

/-- A new action waits for no event yet, and may be attached to any. -/
theorem attach (sound : book.Sound) (id : Nat) (a : Action) (rules : Table Handle) :
    Sound { book with
      actions := book.actions ++ [a]
      events := book.events.attach id book.actions.length
      rules } := by
  have fresh : ∀ {other : Nat} {e : Event Nat}, book.events.event? other = some e →
      book.actions.length ∉ e.actions := fun h ha =>
    Nat.lt_irrefl _ (sound.bounded h _ ha)
  have old : ∀ {other : Nat} {e' : Event Nat},
      (book.events.attach id book.actions.length).event? other = some e' →
      ∃ e, book.events.event? other = some e ∧ e'.condition = e.condition ∧
        (e'.actions = e.actions ∨
          (other = id ∧ e'.actions = e.actions ++ [book.actions.length])) := by
    intro other e' h
    rw [EventRegistry.attach, EventRegistry.event?_modify] at h
    split at h
    · rename_i heq
      obtain ⟨e, he, rfl⟩ := Option.map_eq_some_iff.1 h
      rw [Event.attach, if_neg (fresh he)]
      exact ⟨e, he, rfl, .inr ⟨heq.symm, rfl⟩⟩
    · exact ⟨e', h, rfl, .inl rfl⟩
  have mem : ∀ {other : Nat} {e' : Event Nat} {action : Nat},
      (book.events.attach id book.actions.length).event? other = some e' → action ∈ e'.actions →
      (∃ e, book.events.event? other = some e ∧ action ∈ e.actions) ∨
        (other = id ∧ action = book.actions.length) := by
    intro other e' action h ha
    obtain ⟨e, he, -, actions | ⟨hid, actions⟩⟩ := old h <;> rw [actions] at ha
    · exact .inl ⟨e, he, ha⟩
    · rcases List.mem_append.1 ha with ha | ha
      · exact .inl ⟨e, he, ha⟩
      · exact .inr ⟨hid, by simpa using ha⟩
  refine ⟨sound.indexed.attach _ _, fun h => ?_, fun h action ha => ?_, fun h => ?_,
    fun h h' ha ha' => ?_⟩
  · obtain ⟨e, he, condition, -⟩ := old h
    exact condition ▸ sound.ruled he
  · rw [List.length_append, List.length_singleton]
    rcases mem h ha with ⟨e, he, ha⟩ | ⟨-, rfl⟩
    · exact Nat.lt_succ_of_lt (sound.bounded he action ha)
    · exact Nat.lt_succ_self _
  · obtain ⟨e, he, -, actions | ⟨-, actions⟩⟩ := old h <;> rw [actions]
    · exact sound.nodup he
    · refine List.nodup_append.2 ⟨sound.nodup he, by simp, fun action ha other ho => ?_⟩
      obtain rfl : other = book.actions.length := by simpa using ho
      exact fun heq => fresh he (heq ▸ ha)
  · rcases mem h ha with ⟨e, he, hmem⟩ | ⟨hid, hnew⟩
    · rcases mem h' ha' with ⟨e', he', hmem'⟩ | ⟨-, hnew⟩
      · exact sound.apart he he' hmem hmem'
      · exact absurd (hnew ▸ hmem) (fresh he)
    · rcases mem h' ha' with ⟨e', he', hmem'⟩ | ⟨hid', -⟩
      · exact absurd (hnew ▸ hmem') (fresh he')
      · exact hid.trans hid'.symm

theorem enter (sound : book.Sound) (ruleId text : String) {rule : Rule}
    (ruled : rule.condition.Ruled) : (book.enter ruleId text rule).1.Sound := by
  unfold RuleBook.enter EventRegistry.getOrCreate
  split
  · exact sound
  · rename_i events event _ h
    split at h
    · cases h
      exact sound.attach _ _ _
    · rw [ruled.ofCondition_ok] at h
      cases h
      exact (sound.create ruled).attach _ _ _

theorem chooseId (sound : book.Sound) (id : Option String) : (book.chooseId id).1.Sound := by
  unfold RuleBook.chooseId
  split
  · split
    · exact sound.alike (.refl _) rfl
    · exact sound
  · exact sound.alike (.refl _) rfl

theorem register (sound : book.Sound) {range : SetPointRange} {text : String} {id : Option String}
    {handle : Handle} (h : book.register range text id = .ok (book', handle)) : book'.Sound := by
  obtain ⟨rule, hr, hrule⟩ := exists_of_register h
  have hb : book' = _ := (congrArg Prod.fst hrule).symm
  rw [hb]
  exact ((sound.chooseId id).remove _).enter _ text (Rule.ruled_of_parse hr)

theorem load (sound : book.Sound) (range : SetPointRange) (stored : List (String × String)) :
    (book.load range stored).1.Sound :=
  load_induction (fun _ _ _ _ _ h hr => h.register hr) book stored sound

end Sound

end RuleBook

end HomeAutomation
